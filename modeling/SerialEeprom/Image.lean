/-
# Image files

A device can be loaded from a file.  This module holds the ways in which reading one can fail, with
their wordings and the codes by which a system tells them, and a working folder with some files in
it, which says what reading each name gives.

A `Folder` stands for the system.  An invocation takes what the system gives for the name of its
image as an argument, so it can be run on a real system and in a folder alike
(`Invocation.runIn`), and what is proved of an invocation in a folder does not depend on a disk.
The folder follows names the way a system does: a path is cut at its strokes, an empty part or a dot
leads nowhere, two dots lead upwards, and a name that is too long is refused before it is looked up.
It has only as much of a system as a name on a command line can meet.  There are no links in it, no
rights, and no folders beside the working folder and those above it, so a path that goes through a
file is refused and a path that ends at a folder cannot be read.

What is put under a plain name is read under that name; this is proved where dumps of images are
(`Folder.read_put`).
-/
namespace SerialEeprom

/-- Why a file cannot be read.  The causes that have a name here are those that a folder knows. -/
inductive ImageFault where
  | missing
  | directory
  | nameTooLong
  /-- A part of the path that must be a folder is a file. -/
  | notDirectory
  /-- No name may hold a NUL. -/
  | nulInName
  /-- Any other reason, as the system words it. -/
  | other (reason : String)
  deriving DecidableEq, Repr

/-- The wording of a fault. -/
def ImageFault.message : ImageFault → String
  | .missing => "No such file or directory (os error 2)"
  | .directory => "Is a directory (os error 21)"
  | .nameTooLong => "File name too long (os error 36)"
  | .notDirectory => "Not a directory (os error 20)"
  | .nulInName => "file name contained an unexpected NUL byte"
  | .other reason => reason

/-- The fault that the system means by a code, for those that have a wording here.  A program that
reads a file itself is told codes, and words them as a folder does. -/
def ImageFault.ofCode? (code : UInt32) : Option ImageFault :=
  if code = 2 then some .missing
  else if code = 20 then some .notDirectory
  else if code = 21 then some .directory
  else if code = 36 then some .nameTooLong
  else none

/-- A file that could not be read, by the name it was asked for.  The name is kept as it was given,
and not as the place it leads to. -/
structure ImageError where
  name : String
  fault : ImageFault
  deriving DecidableEq, Repr

/-- The wording of an error. -/
def ImageError.message (e : ImageError) : String :=
  "couldn't read image file " ++ e.name ++ ": " ++ e.fault.message

/-- A working folder: its files, by the place where they are.  A place is the way to it from the
working folder, step by step, or from the root if its first step is `/`. -/
structure Folder where
  files : List (List String × List UInt8) := []
  deriving DecidableEq, Repr

namespace Folder

/-- The longest name of a file or folder, in bytes. -/
def maxNameBytes : Nat := 255

/-- A path must stay below this many bytes. -/
def maxPathBytes : Nat := 4096

/-! ## 1. Places -/

/-- The parts of a path, between the strokes.  Two strokes in a row have an empty part between them,
and a stroke at either end has one beside it. -/
def parts (path : String) : List String :=
  (path.toList.splitOn '/').map String.ofList

/-- Where a path starts.  A path with a stroke in front starts at the root, any other in the working
folder. -/
def start (path : String) : List String :=
  if path.toList.head? = some '/' then ["/"] else []

/-- Go one part further.  An empty part and a dot lead nowhere, and there is nothing above the
root. -/
def step (place : List String) (part : String) : List String :=
  if part = "" ∨ part = "." then place
  else if part = ".." ∧ place = ["/"] then place
  else place ++ [part]

/-- The place to which a path leads.  Two paths to one place name one file. -/
def place (path : String) : List String :=
  (parts path).foldl step (start path)

/-- Put a file where a path leads, over the one that was there. -/
def put (folder : Folder) (path : String) (bytes : List UInt8) : Folder :=
  ⟨(place path, bytes) :: folder.files⟩

/-! ## 2. Reading -/

/-- Follow the parts of a path from a place that is a folder.  There are no folders but the
working folder and those above it. -/
def follow (folder : Folder) (place : List String) :
    List String → Except ImageFault (List UInt8)
  | [] => .error .directory
  | part :: rest =>
    if maxNameBytes < part.utf8ByteSize then .error .nameTooLong
    else
      match folder.files.lookup (step place part) with
      | some bytes => if rest = [] then .ok bytes else .error .notDirectory
      | none =>
        -- A part that names no file leads on only if it leads nowhere new.
        if part = "" ∨ part = "." ∨ part = ".." then follow folder (step place part) rest
        else .error .missing

/-- Read a file by its path.  A path as a whole is looked at before its parts: it must not hold a
NUL, be empty, or be too long. -/
def read (folder : Folder) (path : String) : Except ImageError (List UInt8) :=
  let found : Except ImageFault (List UInt8) :=
    if path.toList.contains '\x00' then .error .nulInName
    else if path = "" then .error .missing
    else if maxPathBytes ≤ path.utf8ByteSize then .error .nameTooLong
    else folder.follow (start path) (parts path)
  found.mapError (⟨path, ·⟩)

end Folder

end SerialEeprom
