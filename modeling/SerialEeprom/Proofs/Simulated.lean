/-
# The events of a transaction on a simulated bus

What a sound device makes of the request and of the completion of one transaction when the bus is
a simulated one.  Nothing of what the bus held before plays a part: a request replaces the field
that its completion reads.

On such a bus the counts are right, which makes each event simple.  Room is made for as many bytes
as the device has, so what found room is a prefix of what the controller sent, and all of it is
taken (`closeWrite_simulated`).  At a read, all bytes from the cursor on are offered, since the
buffer is long enough for the whole device (`slice_cursor_eq`), and the controller reads no more of
them than were offered (`closeRead_of_le`).

How a device is seen from the far side is `Device.Sound.plain`: its contents and its cursor, without
the widths of words.  The invariant of sound devices is what makes it a plain EEPROM.

Main statement: with the bytes of a write that found room, the device stores, moves and notifies
what a plain EEPROM does (`Device.acceptBytes_plain`).
-/
import SerialEeprom.Controller
import SerialEeprom.Proofs.Plain
import SerialEeprom.Proofs.Reachable

namespace SerialEeprom

variable {config : DeviceConfig} {d : Device} {bus : SimulatedBus}

/-- A notification without the widths of its numbers.  Nothing is lost by it, as a word is
determined by its value. -/
def Notification.completion (n : Notification) : Plain.Completion :=
  ⟨n.access, n.address.toNat, n.length.toNat⟩

/-- The plain EEPROM that a device is to a controller.  There is one for each sound device, with the
bounds that it needs. -/
def Device.Sound.plain (h : d.Sound config) : Plain config.size.toNat where
  contents := d.store.cells
  cursor := d.cursor.toNat
  length_contents := h.length_cells
  cursor_le := h.cursor_le

/-! ## 1. The events of one transaction

As equations, so that a transaction is computed by rewriting. -/

namespace Device

theorem openWrite_simulated (h : d.Sound config) (hb : bus.enabled.isSome) :
    d.openWrite bus = ⟨⟨{ d with phase := .operation, staged := some .receive }, none, []⟩,
      { bus with capacity := some config.size.toNat }⟩ := by
  simp only [openWrite, Peripheral.prepareReceive, SimulatedBus.ifEnabled, if_pos hb,
    h.length_scratch]

/-- Both counts speak of all bytes that found room, so all of these are taken.  The bytes that found
none were refused on the wire. -/
theorem closeWrite_simulated (h : d.Sound config) (hs : d.staged = some .receive)
    (hc : bus.capacity = some config.size.toNat) :
    let bytes := bus.incoming.take config.size.toNat
    d.closeWrite bus (Controller.accepted bus bus.incoming.length)
      = ⟨acceptBytes { d with staged := none, scratch := overlay d.scratch 0 bytes } bytes,
          { bus with capacity := none }⟩ := by
  intro bytes
  have hfits : bytes.length ≤ d.scratch.length := h.length_scratch ▸ List.length_take_le ..
  have hcount : Controller.accepted bus bus.incoming.length = bytes.length := by
    simp only [Controller.accepted, hc, bytes, List.length_take]
  have htaken : Peripheral.takeReceived bus d.scratch
      = ⟨bytes.length, overlay d.scratch 0 bytes, { bus with capacity := none }⟩ := by
    simp only [Peripheral.takeReceived, SimulatedBus.takeReceived, hc, bytes]
    rw [Nat.min_eq_left hfits]
  simp only [closeWrite, if_pos hs, htaken, hcount, Nat.min_self, take_overlay_zero hfits]

/-- All bytes from the cursor on are offered, as the scratch buffer has room for the whole
device. -/
theorem slice_cursor_eq (h : d.Sound config) :
    d.store.slice d.cursor d.scratch.length = d.store.cells.drop d.cursor.toNat := by
  refine List.take_of_length_le ?_
  rw [List.length_drop, h.length_cells, h.length_scratch]
  exact Nat.sub_le ..

theorem openRead_simulated (h : d.Sound config) (hb : bus.enabled.isSome) :
    let bytes := d.store.cells.drop d.cursor.toNat
    let scratch := overlay d.scratch 0 bytes
    let staged : Option Staged := some (.transmit bytes.length)
    d.openRead bus
      = ⟨⟨{ d with phase := .operation, scratch, staged }, none, []⟩,
          { bus with offered := bytes }⟩ := by
  intro bytes scratch staged
  have hfits : bytes.length ≤ d.scratch.length := by
    rw [List.length_drop, h.length_cells, h.length_scratch]
    exact Nat.sub_le ..
  simp only [openRead, Store.readTruncated, slice_cursor_eq h, bytes, take_overlay_zero hfits,
    Peripheral.offer, SimulatedBus.ifEnabled, if_pos hb, scratch, staged]

/-- A count of no more than was offered is the count that is served.  There is no warning then. -/
theorem closeRead_of_le {β : Type} {sent offered : Nat} (hs : d.staged = some (.transmit offered))
    (hl : sent ≤ offered) (bus : β) :
    d.closeRead bus sent
      = ⟨⟨{ d with phase := .idle, staged := none, cursor := d.cursor + sent.toUInt16 },
          some ⟨.read, d.cursor, sent.toUInt16⟩, [.readDone sent d.cursor]⟩, bus⟩ := by
  simp only [closeRead, hs, Nat.min_eq_left hl, if_neg (Nat.not_lt.2 hl), List.nil_append]

/-! ## 2. What is stored

This part is about the bytes of one write alone, and holds on any bus. -/

theorem storePayload_plain (h : d.Sound config) {address : UInt16}
    (ha : address.toNat < config.size.toNat) (payload : List UInt8) :
    let stored := min payload.length (config.size.toNat - address.toNat)
    (d.storePayload address payload).device.store.cells
        = overlay d.store.cells address.toNat payload ∧
      (d.storePayload address payload).device.cursor.toNat = address.toNat + stored ∧
      (d.storePayload address payload).notification.toList.map Notification.completion
        = if payload = [] then [] else [⟨.write, address.toNat, stored⟩] := by
  intro stored
  have hsize := config.size.toNat_lt
  have hstored : stored.toUInt16.toNat = stored := by
    rw [UInt16.toNat_ofNat', Nat.mod_eq_of_lt (by omega)]
  unfold storePayload
  split
  · rename_i hp
    subst hp
    exact ⟨(overlay_nil ..).symm, by simp only [stored, List.length_nil, Nat.zero_min]; rfl, rfl⟩
  · simp only [Store.writeTruncated, h.length_cells]
    refine ⟨trivial, ?_, ?_⟩
    · rw [UInt16.toNat_add, hstored, Nat.mod_eq_of_lt (by omega)]
    · simp only [Option.toList, List.map_cons, List.map_nil, Notification.completion]
      rw [hstored]

/-- Bytes that are no address, or one behind the end, leave a message and nothing else. -/
theorem acceptBytes_of_ignored {bytes : List UInt8}
    (hi : bytes.length < 2 ∨ d.config.size.toNat ≤ Plain.header bytes) :
    ∃ entry, (entry.level = .error ∨ entry.level = .warn) ∧
      d.acceptBytes bytes = ⟨d, none, [entry]⟩ := by
  rcases bytes with _ | ⟨high, _ | ⟨low, payload⟩⟩
  · exact ⟨_, .inr rfl, rfl⟩
  · exact ⟨_, .inr rfl, rfl⟩
  · have ha : ¬ BigEndian.ofBytes high low < d.config.size := by
      rw [UInt16.lt_iff_toNat_lt, BigEndian.toNat_ofBytes]
      simp only [List.length_cons, Plain.header] at hi
      omega
    exact ⟨.farAddress (BigEndian.ofBytes high low) d.config.size, .inl rfl, if_neg ha⟩

theorem acceptBytes_of_stored {bytes : List UInt8} (hl : 2 ≤ bytes.length)
    (ha : Plain.header bytes < d.config.size.toNat) :
    ∃ address : UInt16, address.toNat = Plain.header bytes ∧
      d.acceptBytes bytes = d.storePayload address (bytes.drop 2) := by
  rcases bytes with _ | ⟨high, _ | ⟨low, payload⟩⟩
  · exact absurd hl (by decide)
  · exact absurd hl (Nat.lt_irrefl 1)
  · have haddress := BigEndian.toNat_ofBytes high low
    refine ⟨BigEndian.ofBytes high low, haddress, if_pos ?_⟩
    rw [UInt16.lt_iff_toNat_lt, haddress]
    exact ha

/-- **A device does with the bytes of a write what a plain EEPROM does**, if they find room.  Both
read the address in the same way, and cut at the same place. -/
theorem acceptBytes_plain (h : d.Sound config) {bytes : List UInt8}
    (hroom : bytes.length ≤ config.size.toNat) :
    let answer := h.plain.send bytes
    (d.acceptBytes bytes).device.store.cells = answer.after.contents ∧
      (d.acceptBytes bytes).device.cursor.toNat = answer.after.cursor ∧
      (d.acceptBytes bytes).notification.toList.map Notification.completion = answer.told := by
  intro answer
  have hall : min bytes.length config.size.toNat = bytes.length := Nat.min_eq_left hroom
  by_cases hi : bytes.length < 2 ∨ config.size.toNat ≤ Plain.header bytes
  · obtain ⟨entry, -, hserved⟩ := acceptBytes_of_ignored (h.config_eq.symm ▸ hi)
    have hanswer : answer = ⟨_, h.plain, []⟩ := Plain.send_of_ignored (hall.symm ▸ hi)
    rw [hserved, hanswer]
    exact ⟨rfl, rfl, rfl⟩
  · obtain ⟨hl, ha⟩ := not_or.1 hi
    have hl := Nat.not_lt.1 hl
    have ha := Nat.not_le.1 ha
    obtain ⟨address, haddress, hserved⟩ := acceptBytes_of_stored hl (h.config_eq.symm ▸ ha)
    obtain ⟨hcells, hcursor, hnotification⟩ :=
      storePayload_plain h (haddress ▸ ha) (bytes.drop 2)
    obtain ⟨hcontents, hafter, htold⟩ := h.plain.send_of_stored (hall.symm ▸ hl) ha
    rw [haddress] at hcells
    rw [List.length_drop, haddress] at hcursor hnotification
    rw [hall] at hcontents hafter htold
    rw [hserved]
    refine ⟨?_, hcursor.trans hafter.symm, ?_⟩
    · have hstored : min (min (bytes.length - 2) (config.size.toNat - Plain.header bytes))
            (bytes.drop 2).length
          = min (d.store.cells.length - Plain.header bytes) (bytes.drop 2).length := by
        rw [h.length_cells, List.length_drop]
        omega
      exact hcells.trans (hcontents.trans (overlay_take _ _ hstored)).symm
    · -- The device looks for bytes behind the address, the plain EEPROM at the number of bytes.
      have hempty : bytes.drop 2 = [] ↔ ¬ 2 < bytes.length := by
        rw [List.drop_eq_nil_iff]
        exact Nat.not_lt.symm
      rw [hnotification, htold]
      by_cases hp : 2 < bytes.length
      · rw [if_neg (mt hempty.1 (not_not_intro hp)), if_pos hp]
      · rw [if_pos (hempty.2 hp), if_neg hp]

end Device

end SerialEeprom
