/-
# The program

The outer layer: it reads the command line, the image and the input, and plays the trace of the
invocation, with its pauses, to standard output and standard error.  The variable `RUST_LOG`
names the least grave level of messages to show, `info` if it is not set.

All that the program decides is in `Invocation.run`; here it is only connected to a system.  The
image is read before anything is run, and what went wrong with it is put into the words of the
library, so that a file is reported in the same words as in a `Folder` (`faultOf`).  The input is
read to its end before the first line of a session is run.

Printed lines go to standard output and messages to standard error, in the order of the trace.  A
command line that is not understood is answered on standard error, with exit code one.
-/
import SerialEeprom.Command.Invocation

namespace SerialEeprom.Command

open SerialEeprom.Text

/-- What the system says went wrong.  Only the code is looked at where there is a wording for it. -/
def faultOf (e : IO.Error) : ImageFault :=
  let code := match e with
    | .noFileOrDirectory _ code _ => code
    | .inappropriateType _ code _ => code
    | .invalidArgument _ code _ => code
    | _ => 0
  -- Codes come with either sign, for the call may be that of the system or one around it.
  (ImageFault.ofCode? (min code (0 - code))).getD (.other (toString e))

/-- What reading a file gave.  The system is not asked for a name that it could not be told. -/
def readImage (name : String) : IO (Except ImageError (List UInt8)) := do
  if name.toList.contains '\x00' then pure (.error ⟨name, .nulInName⟩)
  else
    try
      let bytes ← IO.FS.readBinFile name
      pure (.ok bytes.toList)
    catch e => pure (.error ⟨name, faultOf e⟩)

/-- The bytes of a stream up to its end, behind those read so far. -/
partial def readToEnd (stream : IO.FS.Stream) (sofar : ByteArray) : IO ByteArray := do
  let piece ← stream.read 65536
  if piece.isEmpty then pure sofar else readToEnd stream (sofar ++ piece)

/-- The lines of the input, for a task that reads it.  Any other task leaves it alone. -/
def inputFor (task : Task) : IO (List InputLine) := do
  match task with
  | .session => pure (InputLine.ofBytes (← readToEnd (← IO.getStdin) ByteArray.empty).toList)
  | _ => pure []

/-- Show one piece of a trace.  A pause is kept here, and nowhere else does a run take time. -/
def play (filter : LogFilter) (emission : Emission Output) : IO Unit := do
  match emission with
  | .log entry => if filter.shows entry then (logLines entry).forM IO.eprintln
  | .report (.line text) => IO.println text
  | .report (.pause milliseconds) => IO.sleep milliseconds.toUInt32

/-- Run the words of a command line; gives the exit code.  A level that is no name of one is taken
as if it were not set. -/
def execute (words : List String) : IO UInt32 := do
  match Invocation.ofWords words with
  | .error e =>
    IO.eprintln ("error: " ++ e.message)
    pure 1
  | .ok invocation =>
    let level ← IO.getEnv "RUST_LOG"
    let filter := (level.bind logFilter?).getD (some .info)
    let image ← invocation.image.mapM readImage
    let done := invocation.run image (← inputFor invocation.task)
    done.trace.forM (play filter)
    pure done.exitCode

end SerialEeprom.Command

def main (words : List String) : IO UInt32 :=
  SerialEeprom.Command.execute words
