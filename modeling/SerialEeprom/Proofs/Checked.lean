/-
# Handling without wrap, cut or overrun

`Device.handle` adds words, which would wrap, puts counts into words, which would cut them, and
takes parts of lists, which would come out short.  None of these fails, so a mistake in a bound
would not show: the result would just be a wrong one.  This module writes the same handling with
operations that give nothing in such a case: `narrow`, `add`, `sub`, `part` and `place`.

The checked handling is written for its operations, and not after the one it is compared with.
Where that takes a part of a list and lets it come out as long as it does, the checked one computes
first how long the part must be, as a program with indices would.  So the two agree only if all the
bounds are right.

They are right on a sound device (`Device.Sound`), for three reasons: the buffer and the contents
have the size of the device; the cursor is at most that size; and a staged read is exactly what
stands between the two.  The last is not obvious, since the owner may write between the request and
the completion; but the owner cannot move the cursor.

Main statement: on every reachable device the checked handling gives a result, and it is that of
`Device.handle` (`reachable_within_bounds`).  So nothing wraps, is cut or overruns there, whatever
the peripherals say.
-/
import SerialEeprom.Bus.Scripted
import SerialEeprom.Proofs.Reachable

namespace SerialEeprom

/-! ## 1. Operations that can fail

Each with the bound under which it does not. -/

namespace Checked

/-- A count as a word, if it fits.  Where it does not, the unchecked conversion would lose its upper
bits. -/
def narrow (n : Nat) : Option UInt16 :=
  if n < 0x10000 then some n.toUInt16 else none

/-- The sum of two words, if it is one.  Where it is not, the unchecked sum would wrap. -/
def add (a b : UInt16) : Option UInt16 :=
  if a.toNat + b.toNat < 0x10000 then some (a + b) else none

/-- The difference of two counts, if it is one.  Otherwise, the unchecked one is nought. -/
def sub (m n : Nat) : Option Nat :=
  if n ≤ m then some (m - n) else none

/-- The bytes of a buffer from `start` up to `stop`, if it has them all.  An empty range behind the
end is not in the buffer either. -/
def part (buffer : List UInt8) (start stop : Nat) : Option (List UInt8) :=
  if start ≤ stop ∧ stop ≤ buffer.length then some ((buffer.take stop).drop start) else none

/-- The buffer with `bytes` from `start` on, if it has room for them all.  Nothing is dropped,
unlike where bytes are laid over a buffer. -/
def place (buffer : List UInt8) (start : Nat) (bytes : List UInt8) : Option (List UInt8) :=
  if start + bytes.length ≤ buffer.length then
    some (buffer.take start ++ bytes ++ buffer.drop (start + bytes.length))
  else none

theorem narrow_of_lt {n : Nat} (h : n < 0x10000) : narrow n = some n.toUInt16 := if_pos h

theorem add_of_lt {a b : UInt16} (h : a.toNat + b.toNat < 0x10000) : add a b = some (a + b) :=
  if_pos h

theorem sub_of_le {m n : Nat} (h : n ≤ m) : sub m n = some (m - n) := if_pos h

theorem part_of_le {buffer : List UInt8} {start stop : Nat} (h₁ : start ≤ stop)
    (h₂ : stop ≤ buffer.length) : part buffer start stop = some ((buffer.take stop).drop start) :=
  if_pos ⟨h₁, h₂⟩

/-- There is room for what laying the bytes over the buffer keeps of them.  So the two ways of
writing agree on what fits. -/
theorem place_take {buffer : List UInt8} {start room : Nat} (h : start + room = buffer.length)
    (bytes : List UInt8) :
    place buffer start (bytes.take room) = some (overlay buffer start bytes) := by
  have hroom : buffer.length - start = room := by omega
  rw [place, if_pos (by rw [List.length_take]; omega), overlay, hroom]

/-! ## 2. Handling by them

The handlers of a device once more, with every sum, difference, index and range checked. -/

variable {β : Type} [Peripheral β]

/-- Lay bytes over the contents as far as there is room behind the address. -/
def writeTruncated (s : Store) (address : UInt16) (bytes : List UInt8) :
    Option (Nat × Store) := do
  let start := min address.toNat s.size.toNat
  let room ← sub s.size.toNat start
  let count := min bytes.length room
  let kept ← part bytes 0 count
  let cells ← place s.cells start kept
  pure (count, { s with cells })

/-- Copy what there is behind the address into a buffer, as far as it goes in. -/
def readTruncated (s : Store) (address : UInt16) (buffer : List UInt8) :
    Option (Nat × List UInt8) := do
  let start := min address.toNat s.size.toNat
  let room ← sub s.size.toNat start
  let count := min buffer.length room
  let found ← part s.cells start (start + count)
  let buffer ← place buffer 0 found
  pure (count, buffer)

/-- The message on bytes that did not fit. -/
def shortfall (requested kept : Nat) : Option (List LogEntry) :=
  if kept < requested then (sub requested kept).map fun n => [.bytesDropped n] else some []

/-- Store what stands behind the address in the first `length` bytes of the buffer.  The bytes are
taken from the buffer by their places, from the third to the last that counts. -/
def storePayload (d : Device) (address : UInt16) (length : Nat) : Option Served := do
  let requested ← sub length 2
  let payload ← part d.scratch 2 length
  let (kept, store) ← writeTruncated d.store address payload
  let dropped ← shortfall requested kept
  let stored ← narrow kept
  let cursor ← add address stored
  pure ⟨{ d with store, cursor }, some ⟨.write, address, stored⟩,
    .addressSet address :: dropped ++ [.written kept address]⟩

/-- Take the first `length` bytes of the buffer as those of one write.  The address is read from the
first two places, which have to be there. -/
def acceptBytes (d : Device) (length : Nat) : Option Served :=
  if length < 2 then some ⟨d, none, [.shortWrite length]⟩
  else do
    let high ← d.scratch[0]?
    let low ← d.scratch[1]?
    let address := BigEndian.ofBytes high low
    if d.config.size ≤ address then pure ⟨d, none, [.farAddress address d.config.size]⟩
    else if 2 < length then storePayload d address length
    else pure ⟨{ d with cursor := address }, none, [.addressSet address]⟩

/-- End a write: no more bytes count than the buffer has, whatever the peripheral says. -/
def closeWrite (d : Device) (bus : β) (received : Nat) : Option (Handled β) :=
  if d.staged = some .receive then do
    let taken := Peripheral.takeReceived bus d.scratch
    let length := min (min received taken.count) taken.buffer.length
    let served ← acceptBytes { d with staged := none, scratch := taken.buffer } length
    pure ⟨served, taken.bus⟩
  else some ⟨⟨{ d with staged := none }, none, [.strayWrite received]⟩, bus⟩

/-- Offer the bytes from the cursor on, copied into the buffer first. -/
def openRead (d : Device) (bus : β) : Option (Handled β) := do
  let (count, scratch) ← readTruncated d.store d.cursor d.scratch
  let bytes ← part scratch 0 count
  match Peripheral.offer bus bytes with
  | (.ok (), bus) =>
    pure ⟨⟨{ d with phase := .operation, scratch, staged := some (.transmit count) }, none, []⟩,
      bus⟩
  | (.error reason, bus) =>
    pure ⟨⟨{ d with phase := .operation, scratch, staged := none }, none,
      [.offerRefused reason]⟩, bus⟩

/-- End a read: move the cursor over what was read, if the sum is still a word. -/
def closeRead (d : Device) (bus : β) (sent : Nat) : Option (Handled β) :=
  match d.staged with
  | some (.transmit offered) => do
    let count := if offered < sent then offered else sent
    let claim := if offered < sent then [LogEntry.overread sent offered] else []
    let length ← narrow count
    let cursor ← add d.cursor length
    pure ⟨⟨{ d with phase := .idle, staged := none, cursor },
      some ⟨.read, d.cursor, length⟩, claim ++ [.readDone count d.cursor]⟩, bus⟩
  | _ => some ⟨⟨{ d with phase := .idle, staged := none }, none, [.strayRead sent]⟩, bus⟩

/-- Handle an event.  Making room for a write and dropping what is open do no arithmetic.  The other
three are checked above, one by one. -/
def handle (d : Device) (bus : β) : BusEvent → Option (Handled β)
  | .writeRequested => some (d.openWrite bus)
  | .writeDone received => closeWrite d bus received
  | .readRequested => openRead d bus
  | .readDone sent => closeRead d bus sent
  | .fault fault => some (d.abort bus fault)

/-! ## 3. Nothing fails on a sound device

One equation for each handler.  The smaller ones ask for no more than the bound they need. -/

variable {config : DeviceConfig} {d : Device}

theorem writeTruncated_eq {s : Store} {address : UInt16} (hs : s.cells.length = s.size.toNat)
    (ha : address.toNat ≤ s.size.toNat) (bytes : List UInt8) :
    writeTruncated s address bytes = some (s.writeTruncated address bytes) := by
  have hstart : min address.toNat s.size.toNat = address.toNat := Nat.min_eq_left ha
  have hkept : bytes.take (min bytes.length (s.size.toNat - address.toNat))
      = bytes.take (s.size.toNat - address.toNat) := by
    rw [Nat.min_comm, ← List.take_eq_take_min]
  have hplace : place s.cells address.toNat (bytes.take (s.size.toNat - address.toNat))
      = some (overlay s.cells address.toNat bytes) := place_take (by omega) bytes
  simp only [writeTruncated, hstart, sub_of_le ha, Option.bind_eq_bind, Option.bind_some,
    part_of_le (Nat.zero_le _) (Nat.min_le_left ..), List.drop_zero, hkept, hplace,
    Store.writeTruncated, hs]
  rfl

theorem readTruncated_eq {s : Store} {address : UInt16} (hs : s.cells.length = s.size.toNat)
    (ha : address.toNat ≤ s.size.toNat) (buffer : List UInt8) :
    readTruncated s address buffer = some (s.readTruncated address buffer) := by
  have hstart : min address.toNat s.size.toNat = address.toNat := Nat.min_eq_left ha
  have hlength := s.length_slice address buffer.length
  rw [hs] at hlength
  have hpart : part s.cells address.toNat
      (address.toNat + min buffer.length (s.size.toNat - address.toNat))
        = some (s.slice address buffer.length) := by
    rw [part_of_le (Nat.le_add_right ..) (by omega), List.drop_take, Nat.add_sub_cancel_left,
      Store.slice, ← hs, ← List.length_drop, ← List.take_eq_take_min]
  have hplace : place buffer 0 (s.slice address buffer.length)
      = some (overlay buffer 0 (s.slice address buffer.length)) := by
    have hfits := place_take (Nat.zero_add buffer.length) (s.slice address buffer.length)
    rwa [List.take_of_length_le (by omega)] at hfits
  simp only [readTruncated, hstart, sub_of_le ha, Option.bind_eq_bind, Option.bind_some, hpart,
    hplace, Store.readTruncated, hlength]
  rfl

theorem shortfall_of_le {requested kept : Nat} (h : kept ≤ requested) :
    shortfall requested kept
      = some (if kept < requested then [.bytesDropped (requested - kept)] else []) := by
  rw [shortfall, sub_of_le h]
  split <;> rfl

/-- The count that is stored fits into a word, and so does the place where it ends.  Both are at
most the size, which is a word. -/
theorem storePayload_eq (h : d.Sound config) {address : UInt16}
    (ha : address.toNat < config.size.toNat) {high low : UInt8} {payload : List UInt8}
    (hp : payload ≠ []) (hb : d.scratch.take (payload.length + 2) = high :: low :: payload) :
    storePayload d address (payload.length + 2) = some (d.storePayload address payload) := by
  have hsize := config.size.toNat_lt
  have hcells := h.length_cells
  have hpart : part d.scratch 2 (payload.length + 2) = some payload := by
    have hlength := congrArg List.length hb
    simp only [List.length_take, List.length_cons] at hlength
    rw [part_of_le (by omega) (by omega), hb]
    rfl
  have hwrite := writeTruncated_eq (h.length_cells.trans (congrArg _ h.size_eq.symm))
    (h.size_eq ▸ Nat.le_of_lt ha) payload
  have hadd : address.toNat
      + (min payload.length (d.store.cells.length - address.toNat)).toUInt16.toNat < 0x10000 := by
    rw [UInt16.toNat_ofNat']
    omega
  simp only [storePayload, sub_of_le (Nat.le_add_left 2 _), Nat.add_sub_cancel, hpart, hwrite,
    Store.writeTruncated, shortfall_of_le (Nat.min_le_left ..),
    narrow_of_lt (by omega : min payload.length (d.store.cells.length - address.toNat) < 0x10000),
    add_of_lt hadd, Option.bind_eq_bind, Option.bind_some, Device.storePayload, if_neg hp]
  rfl

theorem acceptBytes_eq (h : d.Sound config) {length : Nat} (hl : length ≤ d.scratch.length) :
    acceptBytes d length = some (d.acceptBytes (d.scratch.take length)) := by
  have hlength : (d.scratch.take length).length = length := List.length_take_of_le hl
  match hb : d.scratch.take length with
  | [] =>
    obtain rfl : 0 = length := by rw [← hlength, hb]; rfl
    rfl
  | [high] =>
    obtain rfl : 1 = length := by rw [← hlength, hb]; rfl
    rfl
  | high :: low :: payload =>
    obtain rfl : payload.length + 2 = length := by rw [← hlength, hb]; rfl
    -- The program reads the address by its places in the buffer.
    have hhigh : d.scratch[0]? = some high := by
      rw [← List.getElem?_take_of_lt (Nat.succ_pos _), hb]; rfl
    have hlow : d.scratch[1]? = some low := by
      rw [← List.getElem?_take_of_lt (Nat.le_add_left 2 _), hb]; rfl
    simp only [acceptBytes, if_neg (by omega : ¬ payload.length + 2 < 2), hhigh, hlow,
      Option.bind_eq_bind, Option.bind_some, Device.acceptBytes]
    by_cases ha : BigEndian.ofBytes high low < d.config.size
    · rw [if_neg (UInt16.not_le.2 ha), if_pos ha]
      by_cases hp : payload = []
      · subst hp
        rfl
      · rw [if_pos (Nat.lt_add_of_pos_left (List.length_pos_iff.2 hp))]
        exact storePayload_eq h (UInt16.lt_iff_toNat_lt.1 (h.config_eq ▸ ha)) hp hb
    · rw [if_pos (UInt16.not_lt.1 ha), if_neg ha]
      rfl

variable {β : Type}

/-- What a controller can have read ends within the device.  What was offered is what stands behind
the cursor, and the count is cut to that. -/
theorem closeRead_eq (h : d.Sound config) (bus : β) (sent : Nat) :
    closeRead d bus sent = some (d.closeRead bus sent) := by
  rcases hs : d.staged with _ | _ | offered
  · simp only [closeRead, Device.closeRead, hs]
  · simp only [closeRead, Device.closeRead, hs]
  · have hsize := config.size.toNat_lt
    have hcursor := h.cursor_le
    have hoffered := h.staged_eq offered hs
    have hcount : (if offered < sent then offered else sent) = min sent offered := by
      split <;> omega
    have hadd : d.cursor.toNat + (min sent offered).toUInt16.toNat < 0x10000 := by
      rw [UInt16.toNat_ofNat']
      omega
    simp only [closeRead, Device.closeRead, hs, hcount,
      narrow_of_lt (by omega : min sent offered < 0x10000), add_of_lt hadd, Option.bind_eq_bind,
      Option.bind_some]
    rfl

variable [Peripheral β]

theorem closeWrite_eq (h : d.Sound config) (bus : β) (received : Nat) :
    closeWrite d bus received = some (d.closeWrite bus received) := by
  unfold closeWrite Device.closeWrite
  split
  · have hfilled := (h.refill (Peripheral.length_takeReceived bus d.scratch)).unstage d.phase
    simp only [acceptBytes_eq hfilled (Nat.min_le_right ..), Option.bind_eq_bind,
      Option.bind_some, ← List.take_eq_take_min]
    rfl
  · rfl

theorem openRead_eq (h : d.Sound config) (bus : β) : openRead d bus = some (d.openRead bus) := by
  have hread := readTruncated_eq (h.length_cells.trans (congrArg _ h.size_eq.symm))
    (h.size_eq ▸ h.cursor_le) d.scratch
  have hcount : (d.store.readTruncated d.cursor d.scratch).1
      ≤ (d.store.readTruncated d.cursor d.scratch).2.length := by
    rw [Store.length_readTruncated]
    exact Store.count_readTruncated_le ..
  simp only [openRead, hread, part_of_le (Nat.zero_le _) hcount, Option.bind_eq_bind,
    Option.bind_some, List.drop_zero, Device.openRead]
  rcases Peripheral.offer bus ((d.store.readTruncated d.cursor d.scratch).2.take
      (d.store.readTruncated d.cursor d.scratch).1) with ⟨_ | _, _⟩
  · rfl
  · rfl

/-- **A sound device handles every event by operations none of which fails.**  The peripheral is
any, and need not be truthful. -/
theorem handle_eq (h : d.Sound config) (bus : β) (event : BusEvent) :
    handle d bus event = some (d.handle bus event) := by
  cases event with
  | writeRequested => rfl
  | writeDone received => exact closeWrite_eq h bus received
  | readRequested => exact openRead_eq h bus
  | readDone sent => exact closeRead_eq h bus sent
  | fault fault => rfl

/-- With a cursor that moved since the request, the end of the read would wrap. -/
example (d : Device) :
    closeRead { d with cursor := 0xffff, staged := some (.transmit 1) } () 1 = none := rfl

end Checked

/-! ## 4. Every reachable device -/

/-- **Whatever happened to a device, it is within its bounds, and no event can take it out of
them**: contents and scratch buffer have the size of the device, the cursor is at most that size,
a staged read has all bytes from the cursor on, and no operation fails in handling any event of
any peripheral. -/
theorem reachable_within_bounds {config : DeviceConfig} {d : Device} (h : Reachable config d) :
    d.store.cells.length = config.size.toNat ∧
      d.scratch.length = config.size.toNat ∧
      d.cursor.toNat ≤ config.size.toNat ∧
      (∀ n, d.staged = some (.transmit n) → n = config.size.toNat - d.cursor.toNat) ∧
      ∀ {β : Type} [Peripheral β] (bus : β) (event : BusEvent),
        Checked.handle d bus event = some (d.handle bus event) := by
  have hd := h.sound
  refine ⟨hd.length_cells, hd.length_scratch, hd.cursor_le, hd.staged_eq, ?_⟩
  intro β _ bus event
  exact Checked.handle_eq hd bus event

/-- A peripheral that claims far more bytes than there are brings the cursor to the end of the
device, and not behind it. -/
theorem within_bounds_of_wrong_counts :
    let bus : ScriptedBus := { incoming := [0, 2, 5, 6], claim := some 70000 }
    let d := (Device.fresh { size := 3 }).after
      [.load 0 [7, 8, 9], .event bus .writeRequested, .event bus (.writeDone 99999),
        .event bus .readRequested]
    Reachable { size := 3 } d ∧ d.store.cells = [7, 8, 5] ∧ d.cursor = 3 ∧
      d.staged = some (.transmit 0) ∧ d.scratch.length = 3 ∧
      Checked.handle d bus (.readDone 99999) = some (d.handle bus (.readDone 99999)) := by
  intro bus d
  have hd : Reachable { size := 3 } d := Reachable.of_moves rfl _
  obtain ⟨-, hscratch, -, -, hchecked⟩ := reachable_within_bounds hd
  exact ⟨hd, rfl, rfl, rfl, hscratch, hchecked bus (.readDone 99999)⟩

end SerialEeprom
