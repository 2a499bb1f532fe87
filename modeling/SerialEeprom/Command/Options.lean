/-
# Opening a device

The options of the command line that describe a device, as they were given, and the device they
describe.  What was not given has its standard value.  Options are read in a fixed order and the
first fault ends the reading; an image is looked at last.

There are three stages, each with its own way to fail, and none is begun before the one in front of
it is done.

* The options are read one by one (`DeviceOptions.config`).  A text that cannot be read fails with
  the name of its option.
* A device is made from the set-up (`Device.create`).  Options that can each be read may still
  describe no device, such as two pins that are the same.
* An image is loaded into it, as far as it fits.  That the image could not be read is known from the
  start, but matters only now: a fault of the options is reported before it.

Which options open a device, and what the device then is, is stated without these stages in the
module on opening.
-/
import SerialEeprom.Command.Argument
import SerialEeprom.Device
import SerialEeprom.Image

namespace SerialEeprom.Command

/-- Why a command ends without success, whichever command it is.  It becomes the last message of the
run. -/
inductive Failure where
  | parameter (name : String) (cause : ArgumentError)
  | eeprom (cause : EepromError)
  | image (cause : ImageError)
  /-- Input that is not well-formed UTF-8. -/
  | undecodable
  /-- So many lines of a session failed. -/
  | linesFailed (count : Nat)
  deriving DecidableEq, Repr

/-- The wording of a failure. -/
def Failure.message : Failure → String
  | .parameter name cause => "invalid parameter " ++ name ++ ": " ++ cause.message
  | .eeprom cause => cause.message
  | .image cause => cause.message
  | .undecodable => "stream did not contain valid UTF-8"
  | .linesFailed count => s!"{count} command(s) failed"

/-- The description of a device, as given.  Nothing is known of the texts. -/
structure DeviceOptions where
  size : Option String := none
  address : Option String := none
  sda : Option String := none
  scl : Option String := none
  deriving DecidableEq, Repr

/-- The value of an option, or its standard value if it was not given.  The standard value is not
read from a text, and cannot fail. -/
def optionOr {α : Type} (name : String) (given : Option String) (standard : α)
    (read : String → Except ArgumentError α) : Except Failure α :=
  match given with
  | none => .ok standard
  | some source => (read source).mapError (.parameter name)

namespace DeviceOptions

/-- The set-up that the options describe, not checked yet.  The order of the four lines is the order
in which faults are found. -/
def config (o : DeviceOptions) : Except Failure DeviceConfig := do
  let standard : DeviceConfig := {}
  let size ← optionOr "size" o.size standard.size number16
  let address ← optionOr "address" o.address standard.address busAddress
  let sda ← optionOr "sda" o.sda standard.sda pin
  let scl ← optionOr "scl" o.scl standard.scl pin
  pure ⟨address, size, sda, scl⟩

/-- Make the device that the options describe, and load the image into it, if there is one. -/
def openDevice {σ ω : Type} (o : DeviceOptions) (image : Option (Except ImageError (List UInt8))) :
    Action σ ω Failure Device := do
  let config ← Action.ofExcept o.config
  let device ← (Device.create config).mapError .eeprom
  match image with
  | none => pure device
  | some (.error e) => Action.fail (.image e)
  | some (.ok bytes) => do
    let (_, device) ← Action.within device ((Device.load 0 bytes).mapError .eeprom)
    pure device

end DeviceOptions

end SerialEeprom.Command
