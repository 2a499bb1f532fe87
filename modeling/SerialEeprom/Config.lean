/-
# Set-up of a device

What is fixed when a device is made, which set-ups are accepted, and what the peripheral is told
of it.

A set-up is checked once, when the device is made, and by nobody afterwards.  So whatever a set-up
must satisfy for the device to work has to be among the conditions here: contents that are not
empty, an address that fits on the bus, and two lines that are not the same.  The standard set-up
satisfies them.

The peripheral is told of the lines by flat numbers (`DeviceConfig.bus`), while the check compares
the pins themselves.  For pins that exist the two come to the same; for other values of the two
bytes they do not, and a set-up may be accepted whose lines have one number.

Main statement: a set-up is accepted exactly if its address takes seven bits, it has contents,
and its two lines are on different pins (`validate_eq_ok_iff`).
-/
import SerialEeprom.Error

namespace SerialEeprom

/-- What is fixed when a device is made.  The values given here are the standard ones, for whatever
is not asked for. -/
structure DeviceConfig where
  /-- The address the device answers to on the bus. -/
  address : UInt8 := 0x50
  /-- The number of bytes it holds. -/
  size : UInt16 := 256
  sda : Pin := ⟨0, 26⟩
  scl : Pin := ⟨0, 27⟩
  deriving DecidableEq, Repr

/-- What the peripheral needs to listen on the bus, with the lines as it knows them.  The size is no
concern of it. -/
structure BusConfig where
  address : UInt8
  sda : UInt32
  scl : UInt32
  deriving DecidableEq, Repr

namespace DeviceConfig

/-- Refuse a set-up that cannot work, for the first fault it has.  The order matters only to the
message: a set-up with several faults is refused in any order. -/
def validate (config : DeviceConfig) : Except ConfigFault Unit :=
  if 0x7f < config.address then .error (.wideAddress config.address)
  else if config.size = 0 then .error .noContents
  else if config.sda = config.scl then .error (.sharedPin config.sda)
  else .ok ()

/-- What the peripheral is told of a set-up.  It is computed from the set-up each time and kept
nowhere else. -/
def bus (config : DeviceConfig) : BusConfig :=
  ⟨config.address, config.sda.select, config.scl.select⟩

theorem validate_eq_ok_iff {config : DeviceConfig} :
    config.validate = .ok () ↔
      config.address ≤ 0x7f ∧ config.size ≠ 0 ∧ config.sda ≠ config.scl := by
  unfold validate
  split
  next h => simp [UInt8.not_le.2 h]
  next h =>
    have h := UInt8.not_lt.1 h
    split
    next hs => simp [hs]
    next hs =>
      split
      next hp => simp [hp]
      next hp => simp [h, hs, hp]

end DeviceConfig

end SerialEeprom
