/-
# Control registers

A file of one-byte registers kept in the contents of a device.  The host sets them from inside;
the client is on the bus and reads them like any other contents.  Neither knows of the other, and
the device knows of no registers: to it, both are accesses to one byte.

So the two do not refuse the same addresses, and a client must not rely on the device for that.
From inside, an access beyond the end is refused.  On the bus it is not: a target ignores the
address of a write beyond its end and answers the read that follows from wherever its cursor stands.
A register is therefore looked up against the size before the bus is asked (`Register.get`), and one
that is not there is refused with the error that the host would get.

The last byte is another matter.  The host cannot set it, since an access from inside has to stay
strictly below the end, but the client can read it.
-/
import SerialEeprom.Controller

namespace SerialEeprom

/-- A control register: one byte of the contents.  The name is for the log alone. -/
structure Register where
  name : String
  address : UInt16
  deriving DecidableEq, Repr

namespace Register

variable {η ω : Type}

/-- Not zero while the bridge's USB side is attached.  It is the only register there is so far. -/
def usbAttached : Register := ⟨"usb_attached", 0⟩

/-! ## 1. The host -/

/-- Set a register from inside.  It is logged once it was set, and not if it could not be. -/
def set (r : Register) (value : UInt8) : Action Device ω EepromError Unit := do
  Device.write r.address [value]
  Action.log (.registerSet r.name value)

/-- Say whether the USB side is attached. -/
def setUsbAttached (attached : Bool) : Action Device ω EepromError Unit :=
  usbAttached.set (if attached then 1 else 0)

/-! ## 2. The client -/

/-- Read a register over the bus.  One beyond the end is refused without asking: the target would
ignore its address and answer from wherever its cursor is. -/
def get [Observer η ω] (r : Register) : Controller.Call η ω UInt8 := do
  let link ← Action.get
  let size := link.target.device.config.size
  if size ≤ r.address then
    Action.log (.registerMissing r.name r.address size)
    Action.fail (.outOfBounds ⟨r.address, 1, size⟩)
  else
    match ← Controller.read r.address 1 with
    | value :: _ => pure value
    | [] => Action.fail (.outOfBounds ⟨r.address, 1, size⟩)

/-- Ask over the bus whether the USB side is attached.  Any value but nought means that it is, not
only the one that the host writes. -/
def getUsbAttached [Observer η ω] : Controller.Call η ω Bool := do
  let value ← usbAttached.get
  pure (value != 0)

end Register

end SerialEeprom
