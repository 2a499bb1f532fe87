/-
# The last write wins

There are five calls on the contents, three strict ones and two that truncate.  This module shows
that after any number of them, each refused or not, the contents hold in each place the byte of the
last call that put one there, and it says of each call what it gives then.

A call is an address, bytes to store, and a buffer to fill, and in each of the five one of the
latter two is empty.  So the five are two.

* A strict call is refused, or it is the truncating one (`call_of_admitted`).  The bound of a strict
  call leaves out accesses that would fit, and none that would be cut, so where it holds there is
  nothing to truncate.
* What a truncating call leaves is one expression in all cases (`call_truncating`): bytes laid over
  the contents, and a part of the contents laid over the buffer.

Contents are described by a function from places to bytes (`Store.Holds`), which is zero at first.
What a single call puts in each place (`holds_call`) and the order of the calls then give the
contents after many of them (`holds_after`), by induction over the calls, in which a later call goes
before an earlier one.  The size never changes and is an argument throughout.

That no call reaches for a place that there is not is shown as for the bus side: the calls are made
once more by operations that give nothing where an index is out of range, and give the same
(`Checked.call_eq`).

Main statement: the contents after any calls, and the reply to any further one
(`last_write_wins`).
-/
import SerialEeprom.Proofs.Checked

namespace SerialEeprom

namespace Store

/-! ## 1. Calls

As data, with what the five have in common. -/

/-- One call on the contents.  The two ways of access are mixed, as they are on a device. -/
inductive Call where
  | write (address : UInt16) (bytes : List UInt8)
  | writeTruncated (address : UInt16) (bytes : List UInt8)
  | read (address length : UInt16)
  | readInto (address : UInt16) (buffer : List UInt8)
  | readTruncated (address : UInt16) (buffer : List UInt8)
  deriving DecidableEq, Repr

namespace Call

def address : Call → UInt16
  | write address _ => address
  | writeTruncated address _ => address
  | read address _ => address
  | readInto address _ => address
  | readTruncated address _ => address

/-- The bytes that it stores. -/
def bytes : Call → List UInt8
  | write _ bytes => bytes
  | writeTruncated _ bytes => bytes
  | _ => []

/-- The buffer that it fills; that of a plain read is made for it.  A call that stores has none. -/
def buffer : Call → List UInt8
  | read _ length => List.replicate length.toNat 0
  | readInto _ buffer => buffer
  | readTruncated _ buffer => buffer
  | _ => []

/-- The number of bytes that it asks to move. -/
def length : Call → Nat
  | write _ bytes => bytes.length
  | writeTruncated _ bytes => bytes.length
  | read _ length => length.toNat
  | readInto _ buffer => buffer.length
  | readTruncated _ buffer => buffer.length

/-- The truncating call that moves the same bytes.  For a call that is truncating it is the call
itself. -/
def truncating : Call → Call
  | write address bytes => writeTruncated address bytes
  | read address length => readTruncated address (List.replicate length.toNat 0)
  | readInto address buffer => readTruncated address buffer
  | c => c

/-- Calls that are refused rather than cut where they do not fit.  The others move what there is
room for. -/
def isStrict : Call → Bool
  | write .. | read .. | readInto .. => true
  | writeTruncated .. | readTruncated .. => false

/-- A strict call has to stay below the last byte, any other may be made at any time.  A strict call
of nothing is not exempt. -/
def Admitted (size : UInt16) (c : Call) : Prop :=
  c.isStrict → c.address.toNat + c.length < size.toNat

instance (size : UInt16) (c : Call) : Decidable (c.Admitted size) :=
  inferInstanceAs (Decidable (c.isStrict = true → c.address.toNat + c.length < size.toNat))

/-- The number of bytes between the address and the end.  It is nought behind the end. -/
def room (size : UInt16) (c : Call) : Nat :=
  size.toNat - min c.address.toNat size.toNat

/-- The byte that it puts in a place, if it is not refused and the place is among those it
covers. -/
def puts (size : UInt16) (c : Call) (i : Nat) : Option UInt8 :=
  if c.Admitted size ∧ c.address.toNat ≤ i ∧ i < c.address.toNat + min c.length (c.room size) then
    c.bytes[i - c.address.toNat]?
  else none

end Call

/-- What a call leaves: the contents, its buffer, and how many bytes it moved.  A call that stores
leaves an empty buffer, and one that fills a buffer leaves the contents. -/
structure Reply where
  store : Store
  buffer : List UInt8
  moved : Except OutOfBounds Nat

/-- Make a call.  One that is refused leaves the contents and its buffer as they were.  The reply is
the same in kind for all calls, so that one statement covers them. -/
def call (s : Store) (c : Call) : Reply :=
  match c with
  | .write address bytes =>
    match s.write address bytes with
    | .ok t => ⟨t, c.buffer, .ok bytes.length⟩
    | .error access => ⟨s, c.buffer, .error access⟩
  | .writeTruncated address bytes =>
    let (count, t) := s.writeTruncated address bytes
    ⟨t, c.buffer, .ok count⟩
  | .read address length =>
    match s.read address length with
    | .ok found => ⟨s, found, .ok found.length⟩
    | .error access => ⟨s, c.buffer, .error access⟩
  | .readInto address buffer =>
    match s.readInto address buffer with
    | .ok filled => ⟨s, filled, .ok buffer.length⟩
    | .error access => ⟨s, c.buffer, .error access⟩
  | .readTruncated address buffer =>
    let (count, filled) := s.readTruncated address buffer
    ⟨s, filled, .ok count⟩

/-- The contents after calls made one after the other.  Refused calls are among them, and leave the
contents as they were. -/
def after (s : Store) (calls : List Call) : Store :=
  calls.foldl (fun s c => (s.call c).store) s

/-! ## 2. Two kinds of call -/

variable {s : Store} {c : Call}

theorem Call.room_eq (size : UInt16) (c : Call) : c.room size = size.toNat - c.address.toNat := by
  unfold room
  omega

theorem readTruncated_eq (hs : s.cells.length = s.size.toNat) (address : UInt16)
    (buffer : List UInt8) :
    s.readTruncated address buffer =
      (min buffer.length (s.size.toNat - address.toNat),
        overlay buffer 0 (s.slice address buffer.length)) := by
  rw [← hs, ← length_slice]
  rfl

/-- **What a truncating call leaves.**  One expression for all five, since what a call does not have
is empty and changes nothing. -/
theorem call_truncating (hs : s.cells.length = s.size.toNat) (c : Call) :
    s.call c.truncating
      = ⟨⟨s.size, overlay s.cells c.address.toNat c.bytes⟩,
          overlay c.buffer 0 (s.slice c.address c.buffer.length),
          .ok (min c.length (c.room s.size))⟩ := by
  rw [Call.room_eq]
  cases c with
  | write address bytes | writeTruncated address bytes =>
    simp only [Call.truncating, call, writeTruncated, hs, Call.address, Call.bytes, Call.buffer,
      Call.length, List.length_nil, slice, List.take_zero, overlay_nil]
  | read address length | readInto address buffer | readTruncated address buffer =>
    simp only [Call.truncating, call, readTruncated_eq hs, Call.address, Call.bytes, Call.buffer,
      Call.length, List.length_replicate, overlay_nil]

theorem call_of_refused (h : ¬ c.Admitted s.size) :
    s.call c = ⟨s, c.buffer, .error ⟨c.address, c.length, s.size⟩⟩ := by
  obtain ⟨hstrict, hbound⟩ := Classical.not_imp.1 h
  cases c with
  | write address bytes =>
    have hbound : ¬ address.toNat + bytes.length < s.size.toNat := hbound
    simp only [call, write_eq, if_neg hbound]
    rfl
  | read address length =>
    have hbound : ¬ address.toNat + length.toNat < s.size.toNat := hbound
    simp only [call, read_eq, if_neg hbound]
    rfl
  | readInto address buffer =>
    have hbound : ¬ address.toNat + buffer.length < s.size.toNat := hbound
    simp only [call, readInto_eq, if_neg hbound]
    rfl
  | writeTruncated address bytes => cases hstrict
  | readTruncated address buffer => cases hstrict

/-- Below the last byte there is a byte for each place of a buffer. -/
theorem length_slice_of_lt (hs : s.cells.length = s.size.toNat) {address : UInt16} {length : Nat}
    (h : address.toNat + length < s.size.toNat) : (s.slice address length).length = length := by
  rw [length_slice, hs]
  omega

/-- **A call that is not refused is the truncating one.**  Under the bound of strict calls there is
nothing to cut. -/
theorem call_of_admitted (hs : s.cells.length = s.size.toNat) (h : c.Admitted s.size) :
    s.call c = s.call c.truncating := by
  cases c with
  | write address bytes =>
    have hbound : address.toNat + bytes.length < s.size.toNat := h rfl
    have hmoved : min bytes.length (s.size.toNat - address.toNat) = bytes.length := by omega
    simp only [call, Call.truncating, write_eq, if_pos hbound, writeTruncated, hs, hmoved]
    rfl
  | read address length =>
    have hbound : address.toNat + length.toNat < s.size.toNat := h rfl
    have hall : overlay (List.replicate length.toNat 0) 0 (s.slice address length.toNat)
        = s.slice address length.toNat :=
      overlay_of_length_eq ((length_slice_of_lt hs hbound).trans List.length_replicate.symm)
    simp only [call, Call.truncating, read_eq, if_pos hbound, readTruncated, List.length_replicate,
      hall]
  | readInto address buffer =>
    have hbound : address.toNat + buffer.length < s.size.toNat := h rfl
    simp only [call, Call.truncating, readInto_eq, if_pos hbound, readTruncated,
      length_slice_of_lt hs hbound]
  | writeTruncated address bytes => rfl
  | readTruncated address buffer => rfl

/-- A plain read fills a buffer of its own.  It is made of zeros, none of which is left when it is
filled. -/
theorem call_read (hs : s.cells.length = s.size.toNat) (address length : UInt16) :
    s.call (.read address length)
      = s.call (.readInto address (List.replicate length.toNat 0)) := by
  have hlength : (Call.readInto address (List.replicate length.toNat 0)).length
      = (Call.read address length).length := List.length_replicate
  by_cases h : (Call.read address length).Admitted s.size
  · have h' : (Call.readInto address (List.replicate length.toNat 0)).Admitted s.size := by
      intro _
      rw [hlength]
      exact h rfl
    rw [call_of_admitted hs h, call_of_admitted hs h']
    rfl
  · have h' : ¬ (Call.readInto address (List.replicate length.toNat 0)).Admitted s.size := by
      intro h'
      refine h fun _ => ?_
      rw [← hlength]
      exact h' rfl
    rw [call_of_refused h, call_of_refused h', hlength]
    rfl

/-! ## 3. What is in each place

A call either puts a byte in a place or does not, and then the byte that was there stays. -/

/-- Contents of this size, with this byte in each place.  The function is looked at below the size
only. -/
structure Holds (size : UInt16) (held : Nat → UInt8) (s : Store) : Prop where
  size_eq : s.size = size
  cells_eq : s.cells = (List.range size.toNat).map held

/-- The byte that the last of these calls put in a place, if any did.  Calls that were refused put
none. -/
def lastPut (size : UInt16) (calls : List Call) (i : Nat) : Option UInt8 :=
  (calls.filterMap (·.puts size i)).getLast?

variable {size : UInt16} {held : Nat → UInt8}

theorem Holds.length_cells (h : Holds size held s) : s.cells.length = s.size.toNat := by
  rw [h.cells_eq, List.length_map, List.length_range, h.size_eq]

theorem Holds.getElem? (h : Holds size held s) {i : Nat} (hi : i < size.toNat) :
    s.cells[i]? = some (held i) := by
  rw [h.cells_eq, List.getElem?_map, List.getElem?_range hi, Option.map_some]

theorem holds_zeroed (size : UInt16) : Holds size (fun _ => 0) (zeroed size) where
  size_eq := rfl
  cells_eq := by rw [zeroed, List.map_const', List.length_range]

/-- A call that stores bytes covers as many places, as far as there are. -/
theorem Call.puts_of_admitted (h : c.Admitted size) {i : Nat} (hi : i < size.toNat) :
    c.puts size i = if c.address.toNat ≤ i then c.bytes[i - c.address.toNat]? else none := by
  have hlength : c.bytes = [] ∨ c.length = c.bytes.length := by
    cases c with
    | write | writeTruncated => exact .inr rfl
    | read | readInto | readTruncated => exact .inl rfl
  rw [puts, room_eq]
  by_cases hstart : c.address.toNat ≤ i
  · rw [if_pos hstart]
    split
    next => rfl
    next hcovers =>
      rcases hlength with hnone | hlength
      · rw [hnone, List.getElem?_nil]
      · rw [List.getElem?_eq_none]
        have hcovers : ¬ i < c.address.toNat + min c.length (size.toNat - c.address.toNat) :=
          fun hlast => hcovers ⟨h, hstart, hlast⟩
        omega
  · rw [if_neg hstart, if_neg fun hcovers => hstart hcovers.2.1]

/-- Bytes laid over the contents are in their places, and all other places stay.  Bytes that reach
beyond the size have no place. -/
theorem Holds.overlay_eq (h : Holds size held s) (start : Nat) (bytes : List UInt8) :
    overlay s.cells start bytes = (List.range size.toNat).map fun i =>
      (if start ≤ i then bytes[i - start]? else none).getD (held i) := by
  refine List.ext_getElem? fun i => ?_
  rw [getElem?_overlay, h.length_cells, h.size_eq]
  by_cases hi : i < size.toNat
  · rw [h.getElem? hi, List.getElem?_map, List.getElem?_range hi, Option.map_some]
    by_cases hstart : start ≤ i
    · by_cases hlast : i < start + bytes.length
      · rw [if_pos ⟨hstart, hlast, hi⟩, if_pos hstart, List.getElem?_eq_getElem (by omega),
          Option.getD_some]
      · rw [if_neg fun hin => hlast hin.2.1, if_pos hstart, List.getElem?_eq_none (by omega),
          Option.getD_none]
    · rw [if_neg fun hin => hstart hin.1, if_neg hstart, Option.getD_none]
  · have hcells : s.cells.length = size.toNat := h.length_cells.trans (congrArg _ h.size_eq)
    rw [if_neg fun hin => hi hin.2.2, List.getElem?_eq_none (by omega),
      List.getElem?_eq_none (by rw [List.length_map, List.length_range]; omega)]

/-- **A call puts its bytes in their places, and leaves all other places as they were.**  Refused
calls and calls that only read are covered: they put no byte anywhere. -/
theorem holds_call (h : Holds size held s) (c : Call) :
    Holds size (fun i => (c.puts size i).getD (held i)) (s.call c).store := by
  by_cases hc : c.Admitted size
  · rw [call_of_admitted h.length_cells (h.size_eq.symm ▸ hc), call_truncating h.length_cells]
    refine ⟨h.size_eq, (h.overlay_eq c.address.toNat c.bytes).trans ?_⟩
    refine List.map_congr_left fun i hi => ?_
    rw [Call.puts_of_admitted hc (List.mem_range.1 hi)]
  · have hnone : ∀ i, c.puts size i = none := fun i => if_neg fun hin => hc hin.1
    rw [call_of_refused (h.size_eq.symm ▸ hc)]
    simp only [hnone, Option.getD_none]
    exact h

/-- A later call goes before an earlier one.  The byte of the first call counts only where none of
the others put one. -/
theorem getD_lastPut_cons (size : UInt16) (c : Call) (calls : List Call) (i : Nat)
    (byte : UInt8) :
    (lastPut size (c :: calls) i).getD byte
      = (lastPut size calls i).getD ((c.puts size i).getD byte) := by
  unfold lastPut
  rcases hp : c.puts size i with _ | put
  · rw [List.filterMap_cons, hp, Option.getD_none]
  · rw [List.filterMap_cons, hp, List.getLast?_cons, Option.getD_some, Option.getD_some]

/-- **After any calls, each place holds what the last one put there.**  By induction over the calls,
with what is held changing at each of them. -/
theorem holds_after : ∀ (calls : List Call) {held : Nat → UInt8} {s : Store},
    Holds size held s → Holds size (fun i => (lastPut size calls i).getD (held i)) (s.after calls)
  | [], _, _, h => h
  | c :: calls, held, s, h => by
    have hrest := holds_after calls (holds_call h c)
    simp only [getD_lastPut_cons]
    exact hrest

/-! ## 4. What a call gives -/

theorem take_range' (start length count : Nat) :
    (List.range' start length).take count = List.range' start (min count length) := by
  rcases Nat.le_total count length with h | h
  · rw [List.take_range'_of_length_ge h, Nat.min_eq_left h]
  · rw [List.take_range'_of_length_le h, Nat.min_eq_right h]

/-- A slice is the places from its address on, as far as there are.  Places are counted from the
address, and each holds what it held. -/
theorem Holds.slice_eq (h : Holds size held s) (address : UInt16) (length : Nat) :
    s.slice address length
      = (List.range' address.toNat (min length (size.toNat - address.toNat))).map held := by
  rw [slice, h.cells_eq, ← List.map_drop, ← List.map_take, List.range_eq_range',
    List.drop_range', take_range', Nat.zero_add, Nat.mul_one]

/-- A buffer is filled from its start on, and the rest of it stays. -/
theorem Holds.filled_eq (h : Holds size held s) (c : Call) :
    overlay c.buffer 0 (s.slice c.address c.buffer.length)
      = (List.range' c.address.toNat (min c.buffer.length (c.room size))).map held
        ++ c.buffer.drop (c.room size) := by
  have hfound : (s.slice c.address c.buffer.length).take (c.buffer.length - 0)
      = (List.range' c.address.toNat (min c.buffer.length (c.room size))).map held := by
    rw [h.slice_eq, Call.room_eq, List.take_of_length_le]
    rw [List.length_map, List.length_range']
    omega
  have hrest : c.buffer.drop (min c.buffer.length (c.room size)) = c.buffer.drop (c.room size) := by
    rcases Nat.le_total c.buffer.length (c.room size) with hle | hle
    · rw [Nat.min_eq_left hle, List.drop_length, List.drop_of_length_le hle]
    · rw [Nat.min_eq_right hle]
  rw [overlay, hfound, List.take_zero, List.nil_append, List.length_map, List.length_range',
    Nat.zero_add, hrest]

end Store

/-! ## 5. Calls within the contents

The operations are those by which events are checked. -/

namespace Checked

theorem place_of_le {buffer bytes : List UInt8} {start : Nat}
    (h : start + bytes.length ≤ buffer.length) :
    place buffer start bytes = some (overlay buffer start bytes) := by
  have hall : bytes.take (buffer.length - start) = bytes := List.take_of_length_le (by omega)
  rw [place, if_pos h, overlay, hall]

/-- Fill a buffer by a strict call. -/
def fill (s : Store) (address : UInt16) (buffer : List UInt8) : Option Store.Reply :=
  if address.toNat + buffer.length < s.size.toNat then do
    let found ← part s.cells address.toNat (address.toNat + buffer.length)
    let filled ← place buffer 0 found
    pure ⟨s, filled, .ok buffer.length⟩
  else some ⟨s, buffer, .error ⟨address, buffer.length, s.size⟩⟩

/-- Make a call. -/
def call (s : Store) : Store.Call → Option Store.Reply
  | .write address bytes =>
    if address.toNat + bytes.length < s.size.toNat then do
      let cells ← place s.cells address.toNat bytes
      pure ⟨{ s with cells }, [], .ok bytes.length⟩
    else some ⟨s, [], .error ⟨address, bytes.length, s.size⟩⟩
  | .writeTruncated address bytes => do
    let (count, t) ← writeTruncated s address bytes
    pure ⟨t, [], .ok count⟩
  | .read address length => fill s address (List.replicate length.toNat 0)
  | .readInto address buffer => fill s address buffer
  | .readTruncated address buffer => do
    let (count, filled) ← readTruncated s address buffer
    pure ⟨s, filled, .ok count⟩

variable {s : Store}

/-- An address behind the end is as good as the end.  This is why a truncating write may cut its
address before it looks at the places. -/
theorem writeTruncated_all (hs : s.cells.length = s.size.toNat) (address : UInt16)
    (bytes : List UInt8) :
    writeTruncated s address bytes = some (s.writeTruncated address bytes) := by
  rcases Nat.le_total address.toNat s.size.toNat with ha | ha
  · exact writeTruncated_eq hs ha bytes
  · have hstart : min address.toNat s.size.toNat = min s.size.toNat s.size.toNat := by omega
    have hchecked : writeTruncated s address bytes = writeTruncated s s.size bytes := by
      rw [writeTruncated, hstart, writeTruncated]
    have hroom : s.size.toNat - address.toNat = s.size.toNat - s.size.toNat := by omega
    have hmodel : s.writeTruncated address bytes = s.writeTruncated s.size bytes := by
      rw [Store.writeTruncated, Store.writeTruncated, overlay_of_le (hs ▸ ha),
        overlay_of_le (Nat.le_of_eq hs), hs, hroom]
    rw [hchecked, hmodel, writeTruncated_eq hs (Nat.le_refl _)]

theorem readTruncated_all (hs : s.cells.length = s.size.toNat) (address : UInt16)
    (buffer : List UInt8) :
    readTruncated s address buffer = some (s.readTruncated address buffer) := by
  rcases Nat.le_total address.toNat s.size.toNat with ha | ha
  · exact readTruncated_eq hs ha buffer
  · have hstart : min address.toNat s.size.toNat = min s.size.toNat s.size.toNat := by omega
    have hchecked : readTruncated s address buffer = readTruncated s s.size buffer := by
      rw [readTruncated, hstart, readTruncated]
    have hmodel : s.readTruncated address buffer = s.readTruncated s.size buffer := by
      rw [Store.readTruncated, Store.readTruncated, Store.slice, Store.slice,
        List.drop_of_length_le (hs ▸ ha), List.drop_of_length_le (Nat.le_of_eq hs)]
    rw [hchecked, hmodel, readTruncated_eq hs (Nat.le_refl _)]

theorem fill_eq (hs : s.cells.length = s.size.toNat) (address : UInt16) (buffer : List UInt8) :
    fill s address buffer = some (s.call (.readInto address buffer)) := by
  rw [fill, Store.call, Store.readInto_eq]
  split
  next h =>
    have hpart : part s.cells address.toNat (address.toNat + buffer.length)
        = some (s.slice address buffer.length) := by
      rw [part_of_le (Nat.le_add_right ..) (by omega), List.drop_take, Nat.add_sub_cancel_left,
        Store.slice]
    have hplace : place buffer 0 (s.slice address buffer.length)
        = some (overlay buffer 0 (s.slice address buffer.length)) := by
      refine place_of_le ?_
      rw [Nat.zero_add]
      exact List.length_take_le ..
    simp only [hpart, hplace, Option.bind_eq_bind, Option.bind_some]
    rfl
  next => rfl

/-- **No call reaches for a place that there is not**, wherever its address is. -/
theorem call_eq (hs : s.cells.length = s.size.toNat) (c : Store.Call) :
    call s c = some (s.call c) := by
  cases c with
  | write address bytes =>
    rw [call, Store.call, Store.write_eq]
    split
    next h =>
      rw [place_of_le (by omega)]
      rfl
    next => rfl
  | writeTruncated address bytes =>
    rw [call, writeTruncated_all hs]
    rfl
  | read address length =>
    rw [call, fill_eq hs, Store.call_read hs]
  | readInto address buffer => exact fill_eq hs address buffer
  | readTruncated address buffer =>
    rw [call, readTruncated_all hs]
    rfl

end Checked

/-! ## 6. The whole -/

/-- What a call gives on contents of this size that hold these bytes.  All five kinds are in it,
admitted or refused. -/
structure Store.Call.Answered (size : UInt16) (held : Nat → UInt8) (s : Store) (c : Call) :
    Prop where
  /-- A strict call is refused unless it stays below the last byte, and a truncating one never is.
  What is not refused moves as many bytes as there are. -/
  moved_eq : (s.call c).moved =
    if c.Admitted size then .ok (min c.length (c.room size))
    else .error ⟨c.address, c.length, size⟩
  /-- A call that is refused changes neither the contents nor its buffer. -/
  refused : ¬ c.Admitted size → (s.call c).store = s ∧ (s.call c).buffer = c.buffer
  /-- Each place holds what the call put there, and what it held before if it put nothing there. -/
  store_eq : (s.call c).store =
    ⟨size, (List.range size.toNat).map fun i => (c.puts size i).getD (held i)⟩
  /-- The start of the buffer is filled from the places that there are from the address on, and
  the rest of it stays. -/
  buffer_eq : c.Admitted size → (s.call c).buffer =
    (List.range' c.address.toNat (min c.buffer.length (c.room size))).map held
      ++ c.buffer.drop (c.room size)
  /-- A strict call that is not refused is the truncating one, and moves all its bytes. -/
  strict : c.isStrict → c.Admitted size →
    s.call c = s.call c.truncating ∧ (s.call c).moved = .ok c.length
  /-- No call reaches for a place that there is not. -/
  within : Checked.call s c = some (s.call c)

open Store in
theorem Store.Holds.answered {size : UInt16} {held : Nat → UInt8} {s : Store}
    (h : Holds size held s) (c : Call) : c.Answered size held s := by
  have hs := h.length_cells
  have hput := holds_call h c
  obtain rfl := h.size_eq
  -- Once it is admitted, a strict call does what its truncating form does.
  have hadmitted : c.Admitted s.size → s.call c =
      ⟨⟨s.size, overlay s.cells c.address.toNat c.bytes⟩,
        overlay c.buffer 0 (s.slice c.address c.buffer.length),
        .ok (min c.length (c.room s.size))⟩ := by
    intro hc
    rw [call_of_admitted hs hc, call_truncating hs]
  refine ⟨?_, ?_, ?_, ?_, ?_, Checked.call_eq hs c⟩
  · split
    next hc => rw [hadmitted hc]
    next hc => rw [call_of_refused hc]
  · intro hc
    rw [call_of_refused hc]
    exact ⟨rfl, rfl⟩
  · rw [← hput.cells_eq, ← hput.size_eq]
  · intro hc
    rw [hadmitted hc]
    exact h.filled_eq c
  · intro hstrict hc
    have hbound := hc hstrict
    have hall : min c.length (c.room s.size) = c.length := by
      rw [Call.room_eq]
      omega
    refine ⟨call_of_admitted hs hc, ?_⟩
    rw [hadmitted hc, hall]

/-- **After any calls, each place holds the byte of the last call that put one there**, or zero if
none did; and any further call is answered from those bytes, a successful read with the bytes from
its address on. -/
theorem last_write_wins (size : UInt16) (calls : List Store.Call) :
    let s := (Store.zeroed size).after calls
    let held := fun i => (Store.lastPut size calls i).getD 0
    s.cells = (List.range size.toNat).map held ∧
      (∀ c : Store.Call, c.Answered size held s) ∧
      ∀ address length bytes, s.read address length = .ok bytes →
        bytes = (List.range' address.toNat length.toNat).map held := by
  intro s held
  have h : Store.Holds size held s := Store.holds_after calls (Store.holds_zeroed size)
  refine ⟨h.cells_eq, h.answered, fun address length bytes hread => ?_⟩
  obtain ⟨hbound, rfl⟩ := Store.read_eq_ok_iff.1 hread
  rw [h.size_eq] at hbound
  rw [h.slice_eq, Nat.min_eq_left (by omega)]

/-- Writes one over the other, with two that are refused: one at the last byte, one behind it.  The
truncating calls reach the last byte. -/
theorem last_write_wins_over_others :
    let calls : List Store.Call :=
      [.write 1 [1, 2, 3], .writeTruncated 3 [4, 5, 6, 7], .write 5 [8], .write 9 [], .write 2 [9]]
    let s := (Store.zeroed 6).after calls
    s.cells = [0, 1, 9, 4, 5, 6] ∧ s.read 1 3 = .ok [1, 9, 4] ∧
      (s.call (.write 5 [8])).moved = .error ⟨5, 1, 6⟩ ∧
      (s.call (.readTruncated 4 [7, 7, 7])).buffer = [5, 6, 7] := by
  intro calls s
  obtain ⟨hcells, hanswered, -⟩ := last_write_wins 6 calls
  refine ⟨hcells, rfl, ?_, ?_⟩
  · exact (hanswered (.write 5 [8])).moved_eq
  · exact (hanswered (.readTruncated 4 [7, 7, 7])).buffer_eq nofun

end SerialEeprom
