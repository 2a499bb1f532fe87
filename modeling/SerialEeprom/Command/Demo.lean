/-
# Demonstrations

Two commands that show a device at work.  One writes to it over the bus and reads back, again and
again (`demo`); the other sets a control register from inside and asks for it over the bus
(`bridge`).

Both are short, but between them they use both sides of a device: calls from inside, transactions,
the observer that announces them, and the register file.  They differ in how they take an error.  A
demonstration ends at the first that occurs, a device too small for its pattern included.  A bridge
that cannot get its register says so and asks again in the next round; it ends only if the register
cannot be set.

Waiting is an output like others (`wait`), which stands in the trace where the command waits.  Thus
a run takes no time of its own, and whoever plays the trace decides whether to wait.
-/
import SerialEeprom.Command.Options
import SerialEeprom.Command.Output
import SerialEeprom.Register

namespace SerialEeprom.Command

open SerialEeprom.Text

/-- How often to repeat, and how long to wait in between, as given.  The text is read when the
command is run, and a fault in it ends the command. -/
structure RepeatOptions where
  count : Option String := none
  interval : Option String := none
  deriving DecidableEq, Repr

/-- The number of rounds, and the milliseconds between them.  Both are numbers of thirty-two bits,
and no rounds at all may be asked for. -/
def RepeatOptions.read (o : RepeatOptions) (standard : UInt32) : Except Failure (Nat × Nat) := do
  let count ← optionOr "count" o.count standard number
  let interval ← optionOr "interval" o.interval 0 number
  pure (count.toNat, interval.toNat)

/-- Wait for some milliseconds. -/
def wait {σ ε : Type} (milliseconds : Nat) : Action σ Output ε Unit :=
  Action.report (.pause milliseconds)

/-! ## 1. Writing and reading back -/

/-- The bytes stored at first, and those written over them. -/
def firstPattern : List UInt8 := [0xca, 0xfe, 0xba, 0xbe]

/-- The bytes written in each round. -/
def nextPattern : List UInt8 := [0xde, 0xad, 0xbe, 0xef]

/-- Read the pattern over the bus and print it.  As many are read as a pattern has. -/
def showPattern : Action Bench Output EepromError Unit := do
  let bytes ← Controller.read 0 4
  printLine ("EEPROM data " ++ String.ofList (Hex.spaced bytes))

/-- So many rounds of waiting, writing and reading back. -/
def demoRounds (interval : Nat) : Nat → Action Bench Output EepromError Unit
  | 0 => pure ()
  | rounds + 1 => do
    wait interval
    Controller.write 0 nextPattern
    showPattern
    demoRounds interval rounds

/-- Store a pattern, then overwrite it and read it back over the bus.  The first pattern is stored
from inside before the bus is up, so it is there for the first reader. -/
def demo (rounds interval : Nat) : Action Bench Output EepromError Unit := do
  Link.onDevice (Device.write 0 firstPattern)
  Link.attach
  let link ← Action.get
  printLine s!"EEPROM has size {link.target.device.config.size}"
  showPattern
  demoRounds interval rounds

/-! ## 2. The bridge -/

/-- Ask for the state of the USB side and print the answer, be it an error. -/
def poll : Action Bench Output EepromError Unit := do
  match ← Register.getUsbAttached.attempt with
  | .ok attached => printLine ("USB attached: " ++ if attached then "1" else "0")
  | .error e => printLine ("Error while fetching attached status: " ++ e.message)

/-- So many rounds of setting the register, the first time to `attached` and then in turn, and
asking for it. -/
def bridgeRounds (interval : Nat) : Nat → Bool → Action Bench Output EepromError Unit
  | 0, _ => pure ()
  | rounds + 1, attached => do
    Link.onDevice (Register.setUsbAttached attached)
    wait interval
    poll
    bridgeRounds interval rounds !attached

/-- Toggle the register from inside, and ask for it over the bus.  The first round attaches the USB
side, whatever an image says. -/
def bridge (rounds interval : Nat) : Action Bench Output EepromError Unit := do
  Link.attach
  bridgeRounds interval rounds true

end SerialEeprom.Command
