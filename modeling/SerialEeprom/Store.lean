/-
# Contents

The bytes a device holds, with two ways to reach them.

* A strict access must stay below the last byte: `address + length < size`.  One that does not is
  refused and changes nothing.  This is the way for calls from inside.
* A truncating access moves what there is between the address and the end, be it nothing, and
  says how much that was.  This is the way for transactions on the bus, where nobody could be told
  of a refusal.

The bound of a strict access leaves out accesses that would fit: one that ends with the last byte is
refused, and so is an empty one at the end.  It is stated as it is, since callers can see it; the
truncating way has no such gap.

The sum in the bound is taken over the natural numbers and cannot wrap.  In the same way, a
truncating access counts what it moved before it narrows anything, so that an address near the end
of sixteen bits is an address like others.

Main statements: each strict access is open exactly under its bound and then does what its unguarded
form would (`write_eq_ok_iff`, `read_eq_ok_iff`), and no access changes the number of bytes
(`length_cells_writeTruncated`).
-/
import SerialEeprom.Log
import SerialEeprom.Overlay

namespace SerialEeprom

/-- The bytes of a device, and how many it was made for.  The two agree in every store of a device,
which is proved and not a part of the type. -/
structure Store where
  size : UInt16
  cells : List UInt8
  deriving DecidableEq, Repr

namespace Store

/-- Contents of the given size, all zero. -/
def zeroed (size : UInt16) : Store :=
  ⟨size, List.replicate size.toNat 0⟩

/-! ## 1. Strict access -/

/-- Refuse an access that does not stay strictly below the end.  All strict accesses ask here, and
do nothing before they have asked. -/
def checkBounds (s : Store) (address : UInt16) (length : Nat) : Except OutOfBounds Unit :=
  if address.toNat + length < s.size.toNat then .ok () else .error ⟨address, length, s.size⟩

/-- Replace the bytes from an address on. -/
def write (s : Store) (address : UInt16) (bytes : List UInt8) : Except OutOfBounds Store := do
  s.checkBounds address bytes.length
  pure { s with cells := overlay s.cells address.toNat bytes }

/-- The bytes between an address and the end, at most `length` of them.  There are fewer near the
end, and none beyond it. -/
def slice (s : Store) (address : UInt16) (length : Nat) : List UInt8 :=
  (s.cells.drop address.toNat).take length

/-- Fill a buffer from an address on.  As many bytes are read as the buffer is long. -/
def readInto (s : Store) (address : UInt16) (buffer : List UInt8) :
    Except OutOfBounds (List UInt8) := do
  s.checkBounds address buffer.length
  pure (overlay buffer 0 (s.slice address buffer.length))

/-- The bytes from an address on. -/
def read (s : Store) (address length : UInt16) : Except OutOfBounds (List UInt8) := do
  s.checkBounds address length.toNat
  pure (s.slice address length.toNat)

/-- What a strict access leaves in the log: its refusal, and nothing else.  An access that is served
is logged by the caller, who knows what it was for. -/
def accessLog {α : Type} : Except OutOfBounds α → List LogEntry
  | .ok _ => []
  | .error access => [.refused access]

/-! ## 2. Truncating access -/

/-- Replace the bytes from an address on as far as they fit, and count those.  Beyond the end that
is none, and nothing is replaced. -/
def writeTruncated (s : Store) (address : UInt16) (bytes : List UInt8) : Nat × Store :=
  (min bytes.length (s.cells.length - address.toNat),
    { s with cells := overlay s.cells address.toNat bytes })

/-- Fill a buffer from an address on as far as there are bytes, and count those. -/
def readTruncated (s : Store) (address : UInt16) (buffer : List UInt8) : Nat × List UInt8 :=
  let found := s.slice address buffer.length
  (found.length, overlay buffer 0 found)

/-! ## 3. The bound, and the number of bytes -/

theorem write_eq (s : Store) (address : UInt16) (bytes : List UInt8) :
    s.write address bytes =
      if address.toNat + bytes.length < s.size.toNat then
        .ok { s with cells := overlay s.cells address.toNat bytes }
      else .error ⟨address, bytes.length, s.size⟩ := by
  unfold write checkBounds
  split <;> rfl

theorem readInto_eq (s : Store) (address : UInt16) (buffer : List UInt8) :
    s.readInto address buffer =
      if address.toNat + buffer.length < s.size.toNat then
        .ok (overlay buffer 0 (s.slice address buffer.length))
      else .error ⟨address, buffer.length, s.size⟩ := by
  unfold readInto checkBounds
  split <;> rfl

theorem read_eq (s : Store) (address length : UInt16) :
    s.read address length =
      if address.toNat + length.toNat < s.size.toNat then .ok (s.slice address length.toNat)
      else .error ⟨address, length.toNat, s.size⟩ := by
  unfold read checkBounds
  split <;> rfl

theorem write_eq_ok_iff {s t : Store} {address : UInt16} {bytes : List UInt8} :
    s.write address bytes = .ok t ↔
      address.toNat + bytes.length < s.size.toNat ∧
        t = { s with cells := overlay s.cells address.toNat bytes } := by
  rw [write_eq]
  split
  next h => simp only [Except.ok.injEq, h, true_and, eq_comm]
  next h => simp only [reduceCtorEq, h, false_and]

theorem read_eq_ok_iff {s : Store} {address length : UInt16} {bytes : List UInt8} :
    s.read address length = .ok bytes ↔
      address.toNat + length.toNat < s.size.toNat ∧ bytes = s.slice address length.toNat := by
  rw [read_eq]
  split
  next h => simp only [Except.ok.injEq, h, true_and, eq_comm]
  next h => simp only [reduceCtorEq, h, false_and]

@[simp] theorem length_cells_zeroed (size : UInt16) : (zeroed size).cells.length = size.toNat := by
  simp [zeroed]

theorem length_slice (s : Store) (address : UInt16) (length : Nat) :
    (s.slice address length).length = min length (s.cells.length - address.toNat) := by
  simp only [slice, List.length_take, List.length_drop]

theorem count_readTruncated_le (s : Store) (address : UInt16) (buffer : List UInt8) :
    (s.readTruncated address buffer).1 ≤ buffer.length := by
  simp only [readTruncated, length_slice]
  exact Nat.min_le_left ..

@[simp] theorem length_cells_writeTruncated (s : Store) (address : UInt16) (bytes : List UInt8) :
    (s.writeTruncated address bytes).2.cells.length = s.cells.length := by
  simp [writeTruncated]

@[simp] theorem length_readTruncated (s : Store) (address : UInt16) (buffer : List UInt8) :
    (s.readTruncated address buffer).2.length = buffer.length := by
  simp [readTruncated]

end Store

end SerialEeprom
