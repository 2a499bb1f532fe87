/-
# The device

A serial EEPROM as its owner sees it: contents, the address cursor of the bus side, and what the
bus side has open.  The owner reads and writes the contents directly, which neither moves the
cursor nor touches an open transaction.

The state of the bus side is in three fields.

* `cursor` is where the next read on the bus starts.  Only the bus moves it.
* `staged` is what the peripheral accepted for the transaction that is open, if it accepted
  anything.  It alone decides whether a completion belongs to anything.
* `phase` says whether a transaction is open, for those who look at the device.  Nothing the device
  does depends on it.

There is one buffer for all transactions (`scratch`), as long as the contents, made with the device
and never replaced by one of another length.  What is left in it from a transaction does not matter
to the next, as long as the peripheral fills as much of it as it says.

Direct calls fail for their bounds only (`Store.checkBounds`), and a call that fails changes
nothing; loading an image is the exception, which is cut where it does not fit and never fails.

What the device does on the bus is in `Device/Transaction.lean`.
-/
import SerialEeprom.Action
import SerialEeprom.Store

namespace SerialEeprom

/-- The direction of an access on the bus, seen from the controller. -/
inductive Access where
  | read
  | write
  deriving DecidableEq, Repr

/-- A completed access on the bus: `length` bytes from `address` on, as many as were moved and not
as were asked for. -/
structure Notification where
  access : Access
  address : UInt16
  length : UInt16
  deriving DecidableEq, Repr

/-- Whether a transaction is open on the bus; for information only. -/
inductive Phase where
  | idle
  | operation
  deriving DecidableEq, Repr

/-- What the peripheral accepted for the open transaction.  The bytes offered for a read are kept by
the peripheral; only their number is needed here. -/
inductive Staged where
  /-- Room for what a controller writes. -/
  | receive
  /-- So many bytes for a controller to read. -/
  | transmit (offered : Nat)
  deriving DecidableEq, Repr

/-- A serial EEPROM.  Its set-up never changes, and the two sizes follow from it. -/
structure Device where
  config : DeviceConfig
  store : Store
  /-- Where the next read on the bus starts. -/
  cursor : UInt16
  phase : Phase
  staged : Option Staged
  /-- The one buffer that all transactions share. -/
  scratch : List UInt8
  deriving DecidableEq, Repr

namespace Device

variable {σ ω β : Type}

/-- A device as it is made: contents zero, cursor at the start, nothing open.  The buffer is zero as
well. -/
def fresh (config : DeviceConfig) : Device where
  config := config
  store := .zeroed config.size
  cursor := 0
  phase := .idle
  staged := none
  scratch := List.replicate config.size.toNat 0

/-- Make a device, if its set-up can work.  A set-up that is refused leaves no message, only the
error. -/
def create (config : DeviceConfig) : Action σ ω EepromError Device :=
  match config.validate with
  | .error fault => .fail (.configuration fault)
  | .ok () => do
    Action.log (.created config.address config.size)
    pure (fresh config)

/-- Bring up a peripheral, so that the device answers on its bus.  The device itself is not changed
by it, whether the peripheral comes up or not. -/
def attach [Peripheral β] (d : Device) : Action β ω EepromError Unit := fun bus =>
  match Peripheral.enable bus d.config.bus with
  | (.ok (), bus) =>
    ⟨.ok (), bus, [.log (.enabling d.config.bus), .log (.listening d.config)]⟩
  | (.error reason, bus) =>
    ⟨.error (.configuration (.peripheralDown reason)), bus,
      [.log (.enabling d.config.bus), .log (.enableFailed reason)]⟩

/-! ## 1. Direct access -/

/-- Write bytes from inside.  The bytes are all stored or none of them is. -/
def write (address : UInt16) (bytes : List UInt8) : Action Device ω EepromError Unit := fun d =>
  match d.store.write address bytes with
  | .ok store => ⟨.ok (), { d with store }, [.log (.stored bytes.length address)]⟩
  | .error access => ⟨.error (.outOfBounds access), d, [.log (.refused access)]⟩

/-- What was found by a strict access that changes nothing.  A refusal is logged, a result is
not. -/
def found {α : Type} (r : Except OutOfBounds α) : Action Device ω EepromError α := fun d =>
  ⟨r.mapError .outOfBounds, d, (Store.accessLog r).map .log⟩

/-- Read bytes from inside.  The cursor of the bus side plays no part in where they are read. -/
def read (address length : UInt16) : Action Device ω EepromError (List UInt8) := fun d =>
  found (d.store.read address length) d

/-- Fill a buffer from inside.  It is filled to its end, or not at all. -/
def readInto (address : UInt16) (buffer : List UInt8) :
    Action Device ω EepromError (List UInt8) := fun d =>
  found (d.store.readInto address buffer) d

/-- Put an image into the contents from an address on, as far as it fits; gives the number of
bytes stored.  An image that is cut is loaded with a warning. -/
def load (address : UInt16) (image : List UInt8) : Action Device ω EepromError Nat := fun d =>
  let (kept, store) := d.store.writeTruncated address image
  let truncated : List (Emission ω) :=
    if kept < image.length then [.log (.imageTruncated image.length kept address)] else []
  ⟨.ok kept, { d with store }, truncated ++ [.log (.loaded kept address)]⟩

/-- The whole contents.  Unlike a strict read, this reaches the last byte. -/
def snapshot (d : Device) : List UInt8 :=
  d.store.cells

end Device

/-! ## 2. Shown as a value -/

open SerialEeprom.Text

/-- The name of a phase. -/
def Phase.name : Phase → String
  | .idle => "Idle"
  | .operation => "Operation"

/-- A pin, shown with its parts. -/
def Pin.shown (p : Pin) : Shown :=
  .record "Pin" (.ofAtoms [("port", s!"{p.port}"), ("pin", s!"{p.number}")])

/-- The set-up of a device, shown with its parts. -/
def DeviceConfig.shown (config : DeviceConfig) : Shown :=
  .record "DeviceConfig"
    (.more "address" (.atom s!"{config.address}")
      (.more "size" (.atom s!"{config.size}")
        (.more "sda" config.sda.shown (.more "scl" config.scl.shown .none))))

/-- A device, shown without its contents.  Neither is the buffer shown, nor what is staged. -/
def Device.shown (d : Device) : Shown :=
  .record "VirtualEeprom"
    (.more "config" d.config.shown
      (.ofAtoms [("cursor", s!"{d.cursor}"), ("state", d.phase.name)]))

end SerialEeprom
