/-
# Errors

What can go wrong with a device, as causes.  A cause keeps the values it is about, so that whoever
handles it need not take them out of a text again; the wording is in one function for each type
(`message`), and nothing in the library looks at a wording to decide what to do.

There are three kinds, after who could have avoided them: an access from inside that does not stay
in bounds (`OutOfBounds`), which is the owner's; a set-up that cannot work (`ConfigFault`), which is
whoever made it; and a transaction that the peripheral reports as failed (`BusFault`), which is
nobody's.  The same three values of `BusFault` are reported to both ends of a bus.

Numbers in a wording are shown as they are in a log, sizes and addresses in hexadecimal.
-/
import SerialEeprom.Pin
import SerialEeprom.Text.Hex

namespace SerialEeprom

open SerialEeprom.Text

/-- What a peripheral can report about a transaction that failed.  It is not said how far the
transaction got. -/
inductive BusFault where
  | read
  | write
  | general
  deriving DecidableEq, Repr, Inhabited

/-- The wording of a fault of the peripheral. -/
def BusFault.message : BusFault → String
  | .read => "read error"
  | .write => "write error"
  | .general => "general error"

/-- An access refused because it does not stay below the end of the contents, with all that decides
about it: where it would have started, how long it would have been, and the size. -/
structure OutOfBounds where
  address : UInt16
  length : Nat
  size : UInt16
  deriving DecidableEq, Repr

/-- Why a device cannot be set up.  All but the last two are found in the set-up itself, before
anything is made. -/
inductive ConfigFault where
  /-- The bus address takes more than seven bits. -/
  | wideAddress (address : UInt8)
  /-- There would be no contents. -/
  | noContents
  /-- Both lines of the bus are on this pin. -/
  | sharedPin (pin : Pin)
  /-- The peripheral did not come up, for the reason it gave. -/
  | peripheralDown (reason : String)
  /-- A cause known by its wording only. -/
  | other (reason : String)
  deriving DecidableEq, Repr

/-- The wording of a fault in the set-up. -/
def ConfigFault.message : ConfigFault → String
  | .wideAddress address =>
    "bus address 0x" ++ Hex.text 2 address.toNat ++ " is not a 7-bit address"
  | .noContents => "size must not be zero"
  | .sharedPin pin => "SDA and SCL share pin " ++ pin.text
  | .peripheralDown reason => "bus peripheral initialization failed: " ++ reason
  | .other reason => reason

/-- Whatever a call on a device can fail with, from inside or from the bus.  The three kinds stay
apart, so that a caller can answer each in its own way. -/
inductive EepromError where
  | outOfBounds (access : OutOfBounds)
  | peripheral (fault : BusFault)
  | configuration (fault : ConfigFault)
  deriving DecidableEq, Repr

namespace EepromError

/-- The wording of an error. -/
def message : EepromError → String
  | .outOfBounds ⟨address, length, size⟩ =>
    s!"access of {length} bytes @ 0x" ++ Hex.text 4 address.toNat ++ " out of bounds (size 0x"
      ++ Hex.text 4 size.toNat ++ ")"
  | .peripheral fault => "peripheral " ++ fault.message
  | .configuration fault => "invalid configuration: " ++ fault.message

/-- Whether an access was refused for its bounds. -/
def isOutOfBounds : EepromError → Bool
  | .outOfBounds _ => true
  | _ => false

end EepromError

end SerialEeprom
