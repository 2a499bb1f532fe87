/-
# Sessions

A session runs commands against one device, one to a line: some as a controller on the bus, some
from inside.  A line is read completely before anything is done for it, so a line that cannot be
read does nothing (`Instruction.parse`).  A failing line is noted and the session goes on; it
fails at the end if any line did.

Between a line and the device there are two steps, and they are kept apart.  Reading gives an
instruction, whose arguments are numbers and bytes and no longer texts; running an instruction is an
action on a bench, which is a device on a simulated bus (`Instruction.run`).  So all that a session
can do to a device is in one list of instructions, and each does what could be done without a
session.

Lines are numbered from one, those included that ask for nothing.  A line that fails leaves what it
did before it failed, which for a call from inside is nothing, and for one on the bus what the
transaction did.  There is one thing a session does not get over: input that is no text.  It ends
there, and does not look at the lines behind.
-/
import SerialEeprom.Command.Options
import SerialEeprom.Command.Output
import SerialEeprom.Text.Hex
import SerialEeprom.Text.Input

namespace SerialEeprom.Command

open SerialEeprom.Text

/-- What a line asks for, with its arguments read.  There is nothing left in it that could be found
wrong before it is run. -/
inductive Instruction where
  /-- A write transaction with these bytes. -/
  | send (bytes : List UInt8)
  /-- A read transaction. -/
  | receive (length : UInt32)
  | seek (address : UInt16)
  /-- Write at an address over the bus. -/
  | put (address : UInt16) (bytes : List UInt8)
  /-- Read at an address over the bus. -/
  | get (address : UInt16) (length : UInt32)
  /-- Write from inside. -/
  | store (address : UInt16) (bytes : List UInt8)
  /-- Read from inside. -/
  | fetch (address length : UInt16)
  /-- Let the next transaction fail. -/
  | fail (fault : BusFault)
  | cursor
  | dump
  deriving DecidableEq, Repr

/-- Why a line fails.  All but the last are found while the line is read, and then nothing was done
for it. -/
inductive LineError where
  /-- The instruction lacks an argument. -/
  | missing (instruction argument : String)
  | argument (cause : ArgumentError)
  | unknownFault (name : String)
  | unknownInstruction (name : String)
  | eeprom (cause : EepromError)
  deriving DecidableEq, Repr

/-- The wording of an error. -/
def LineError.message : LineError → String
  | .missing name what => name ++ ": missing " ++ what
  | .argument cause => cause.message
  | .unknownFault name => "unknown peripheral error kind " ++ Quoted.encode name
  | .unknownInstruction name => "unknown command " ++ Quoted.encode name
  | .eeprom cause => cause.message

/-! ## 1. Reading a line -/

namespace Instruction

/-- Read the first of the arguments left, and keep the others.  A lack of it is a fault of its own,
with the names of the instruction and of what it lacks. -/
def next {α : Type} (instruction argument : String) (read : String → Except ArgumentError α) :
    List (List Char) → Except LineError (α × List (List Char))
  | [] => .error (.missing instruction argument)
  | token :: rest =>
    match read (String.ofList token) with
    | .ok value => .ok (value, rest)
    | .error cause => .error (.argument cause)

/-- Read all arguments left as bytes.  There may be none, and then the instruction is run with no
bytes. -/
def payload (tokens : List (List Char)) : Except LineError (List UInt8) :=
  (bytes tokens).mapError .argument

/-- The fault of a name. -/
def fault (name : String) : Except LineError BusFault :=
  if name = "read" then .ok .read
  else if name = "write" then .ok .write
  else if name = "general" then .ok .general
  else .error (.unknownFault name)

/-- Read an instruction from its name and its arguments, from the left.  Arguments beyond those it
takes are ignored; where bytes are asked for, all that is left is taken as such. -/
def ofWords (name : String) (arguments : List (List Char)) : Except LineError Instruction :=
  match name with
  | "w" => send <$> payload arguments
  | "r" => do
    let (length, _) ← next name "length" number arguments
    pure (receive length)
  | "seek" => do
    let (address, _) ← next name "address" number16 arguments
    pure (seek address)
  | "put" => do
    let (address, rest) ← next name "address" number16 arguments
    put address <$> payload rest
  | "get" => do
    let (address, rest) ← next name "address" number16 arguments
    let (length, _) ← next name "length" number rest
    pure (get address length)
  | "store" => do
    let (address, rest) ← next name "address" number16 arguments
    store address <$> payload rest
  | "fetch" => do
    let (address, rest) ← next name "address" number16 arguments
    let (length, _) ← next name "length" number16 rest
    pure (fetch address length)
  | "fail" => do
    let (kind, _) ← next name "kind" Except.ok arguments
    fail <$> fault kind
  | "cursor" => pure cursor
  | "dump" => pure dump
  | _ => throw (.unknownInstruction name)

/-- Read a line.  One that is blank, or whose first word starts with `#`, asks for nothing.  A mark
inside a line starts no comment. -/
def parse (line : String) : Except LineError (Option Instruction) :=
  match words line.toList with
  | [] => .ok none
  | ('#' :: _) :: _ => .ok none
  | name :: arguments => some <$> ofWords (String.ofList name) arguments

end Instruction

/-! ## 2. Running a line -/

/-- Print bytes in hexadecimal. -/
def printBytes {σ ε : Type} (data : List UInt8) : Action σ Output ε Unit :=
  printChars (Hex.spaced data)

/-- Print lines, given as characters. -/
def printAll {σ ε : Type} : List (List Char) → Action σ Output ε Unit
  | [] => pure ()
  | line :: rest => do
    printChars line
    printAll rest

/-- Print where the cursor is, and whether a transaction is open.  It looks at the device from
inside, so it moves nothing. -/
def printCursor (d : Device) : Action Bench Output EepromError Unit :=
  printLine (hex16 d.cursor ++ " (" ++ d.phase.name ++ ")")

/-- Do what an instruction asks for, and print what it gives.  Reading gives a line of bytes, which
may be empty; writing from inside prints nothing. -/
def Instruction.run : Instruction → Action Bench Output EepromError Unit
  | send bytes => do
    let count ← Controller.send bytes
    printLine s!"accepted {count} of {bytes.length} bytes"
  | receive length => do
    let bytes ← Controller.receive length.toNat
    printBytes bytes
  | seek address => Controller.seek address
  | put address bytes => Controller.write address bytes
  | get address length => do
    let bytes ← Controller.read address length.toNat
    printBytes bytes
  | store address bytes => Link.onDevice (Device.write address bytes)
  | fetch address length => do
    let bytes ← Link.onDevice (Device.read address length)
    printBytes bytes
  | fail fault => Link.modifyBus fun bus => { bus with fault := some fault }
  | cursor => do
    let link ← Action.get
    printCursor link.target.device
  | dump => do
    let link ← Action.get
    printAll (Hexdump.lines link.target.device.snapshot)

/-- Run a line of a session: read it, and do what it asks for, if anything.  Errors of both steps
are errors of the line. -/
def runLine (line : String) : Action Bench Output LineError Unit :=
  match Instruction.parse line with
  | .error e => Action.fail e
  | .ok none => pure ()
  | .ok (some instruction) => instruction.run.mapError .eeprom

/-! ## 3. Running a session -/

/-- Run lines, the first of which has the given number, after so many failed; gives the number of
all that failed. -/
def runLines (number failed : Nat) : List InputLine → Action Bench Output Failure Nat
  | [] => pure failed
  | .undecodable :: _ => Action.fail .undecodable
  | .readable text :: rest => do
    match ← (runLine text).attempt with
    | .ok () => runLines (number + 1) failed rest
    | .error e =>
      Action.log (.lineFailed number e.message)
      runLines (number + 1) (failed + 1) rest

/-- Run a session from its start to its end.  The bus has to come up first; without it no line is
run. -/
def session (input : List InputLine) : Action Bench Output Failure Unit := do
  Link.attach.mapError .eeprom
  let failed ← runLines 1 0 input
  if failed ≠ 0 then Action.fail (.linesFailed failed)

end SerialEeprom.Command
