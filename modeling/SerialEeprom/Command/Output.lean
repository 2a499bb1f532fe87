/-
# What a command prints

The output of a command is a list of lines, with pauses between them where the command waits.
While it runs, completed accesses on the bus are announced as lines too.

Lines are printed by actions, as reports in their trace, and so are the announcements, which come
from the observer of the target (`Announcer`).  Both stand in one list, in the order in which they
came about: an access is announced where it is completed, before the line that says what it gave.

Announcers come in two kinds, after who reads them.  One is for people, in words; the other is for
programs, and begins with a mark of its own, so that it can be told from the answers among which it
stands.  Neither ever steps down or hands over.
-/
import SerialEeprom.Controller

namespace SerialEeprom.Command

open SerialEeprom.Text

/-- One piece of output.  A pause is no line, but has its place between the lines. -/
inductive Output where
  | line (text : String)
  | pause (milliseconds : Nat)
  deriving DecidableEq, Repr

/-- The line, if it is one. -/
def Output.line? : Output → Option String
  | line text => some text
  | pause _ => none

/-- How accesses on the bus are announced. -/
inductive Announcer where
  /-- In words, with bare hexadecimal numbers. -/
  | wordy
  /-- As an event. -/
  | terse
  deriving DecidableEq, Repr

namespace Announcer

/-- The announcement of an access: which kind, how many bytes, and where from.  The two kinds also
differ in how they write the numbers. -/
def text (a : Announcer) (n : Notification) : String :=
  match a with
  | .wordy =>
    let verb := match n.access with
      | .read => "Read "
      | .write => "Wrote "
    let way := match n.access with
      | .read => " bytes from "
      | .write => " bytes to "
    verb ++ Hex.text 1 n.length.toNat ++ way ++ Hex.text 1 n.address.toNat
  | .terse =>
    let kind := match n.access with
      | .read => "read"
      | .write => "write"
    "event: " ++ kind ++ s!" {n.length} bytes @ " ++ hex16 n.address

instance : Observer Announcer Output where
  react a _ n := ⟨[.report (.line (a.text n))], some a⟩

end Announcer

/-- What commands work on: a target on a simulated bus, whose accesses are announced.  Its reports
are pieces of output, so announcements and answers come in one order. -/
abbrev Bench := Link Announcer SimulatedBus

/-- Print a line. -/
def printLine {σ ε : Type} (text : String) : Action σ Output ε Unit :=
  Action.report (.line text)

/-- Print a line given as characters. -/
def printChars {σ ε : Type} (text : List Char) : Action σ Output ε Unit :=
  printLine (String.ofList text)

end SerialEeprom.Command
