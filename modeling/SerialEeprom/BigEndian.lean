/-
# Addresses on the wire

An address travels as two bytes, the high one first.  A controller takes an address apart
(`toBytes`) and a target puts it together (`ofBytes`), each with shifts of its own, and neither can
tell the other what it meant.

Main statements: the two are inverse to each other on all numbers of sixteen bits and on all pairs
of bytes (`ofBytes_toBytes`, `toBytes_ofBytes`).  So every address can be sent, every two bytes are
an address, and no two addresses look the same on the wire (`toBytes_inj`).
-/
namespace SerialEeprom.BigEndian

/-- The high byte of a number. -/
def high (n : UInt16) : UInt8 := (n >>> 8).toUInt8

/-- The low byte of a number. -/
def low (n : UInt16) : UInt8 := n.toUInt8

/-- The two bytes of a number.  The order is that of the wire. -/
def toBytes (n : UInt16) : List UInt8 := [high n, low n]

/-- The number of two bytes.  There is one for every two bytes, so no address is malformed on the
wire. -/
def ofBytes (high low : UInt8) : UInt16 := UInt16.ofNat (high.toNat * 256 + low.toNat)

theorem toNat_ofBytes (a b : UInt8) : (ofBytes a b).toNat = a.toNat * 256 + b.toNat := by
  have ha := a.toNat_lt
  have hb := b.toNat_lt
  rw [ofBytes, UInt16.toNat_ofNat']
  omega

theorem toNat_high (n : UInt16) : (high n).toNat = n.toNat / 256 := by
  have hn := n.toNat_lt
  simp only [high, UInt16.toNat_toUInt8, UInt16.toNat_shiftRight, UInt16.reduceToNat,
    Nat.shiftRight_eq_div_pow, Nat.reduceMod, Nat.reducePow]
  omega

theorem toNat_low (n : UInt16) : (low n).toNat = n.toNat % 256 := by
  simp only [low, UInt16.toNat_toUInt8]

theorem ofBytes_toBytes (n : UInt16) : ofBytes (high n) (low n) = n := by
  apply UInt16.toNat_inj.1
  rw [toNat_ofBytes, toNat_high, toNat_low]
  omega

theorem toBytes_ofBytes (a b : UInt8) : toBytes (ofBytes a b) = [a, b] := by
  have ha := a.toNat_lt
  have hb := b.toNat_lt
  have h₁ : high (ofBytes a b) = a := by
    apply UInt8.toNat_inj.1
    rw [toNat_high, toNat_ofBytes]
    omega
  have h₂ : low (ofBytes a b) = b := by
    apply UInt8.toNat_inj.1
    rw [toNat_low, toNat_ofBytes]
    omega
  rw [toBytes, h₁, h₂]

theorem toBytes_inj {m n : UInt16} : toBytes m = toBytes n ↔ m = n := by
  constructor
  · intro h
    obtain ⟨hhigh, hrest⟩ := List.cons.inj h
    rw [← ofBytes_toBytes m, ← ofBytes_toBytes n, hhigh, (List.cons.inj hrest).1]
  · rintro rfl
    rfl

end SerialEeprom.BigEndian
