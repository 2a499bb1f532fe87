/-
# Access at an address

A write at an address carries the address in front of its data, and a read at an address is an
empty write followed by a read.  The address shares the receive buffer with the data, which has as
many bytes as the device: so at most two bytes less than the device can be stored at once, and a
device of a single byte never takes an address at all.

Two bounds meet in a write.  Behind the address, `size - 2` bytes find room in the buffer and
`size - address` in the device, and the smaller of the two counts.  For an address of two or more
that is the end of the device, as one would expect; for the first two addresses it is the buffer,
and bytes that the device could hold are lost without a sign.

All of it is a matter of numbers once the transactions are known, so the first section is about
plain EEPROMs alone, on which a transaction is a short computation.  `write_follows`, `seek_follows`
and `read_follows` carry it over to a device on a simulated bus.  What is not assumed is a size of
at least two, since a device of one byte passes every check; what it does with an address is stated
along with the rest.

Main statements: how much a write stores, and that reading it again gives the data if it was all
stored (`write_stores_what_fits`); a seek moves the cursor, and a read at an address reads from
there, exactly if the device has at least two bytes or the cursor was there before
(`seek_moves_iff`).
-/
import SerialEeprom.Proofs.Transactions

namespace SerialEeprom

namespace Plain

variable {size : Nat} {p : Plain size} {address : UInt16}

theorem header_toBytes (address : UInt16) (bytes : List UInt8) :
    header (BigEndian.toBytes address ++ bytes) = address.toNat := by
  simp only [BigEndian.toBytes, List.cons_append, List.nil_append, header, BigEndian.toNat_high,
    BigEndian.toNat_low]
  omega

/-- What a write at an address does.  Of the receive buffer, the address takes two bytes.  On a
device of one byte they find no room, and nothing is done. -/
theorem send_toBytes (ha : address.toNat < size) (bytes : List UInt8) :
    let stored := min bytes.length (min (size - 2) (size - address.toNat))
    let answer := p.send (BigEndian.toBytes address ++ bytes)
    answer.after.contents = overlay p.contents address.toNat (bytes.take stored) ∧
      answer.after.cursor = (if 2 ≤ size then address.toNat + stored else p.cursor) ∧
      answer.told = if stored = 0 then [] else [⟨.write, address.toNat, stored⟩] := by
  intro stored answer
  have hlength : (BigEndian.toBytes address ++ bytes).length = bytes.length + 2 := by
    rw [List.length_append, Nat.add_comm]
    rfl
  have hheader := header_toBytes address bytes
  by_cases hs : 2 ≤ size
  · have hstored : min (min (BigEndian.toBytes address ++ bytes).length size - 2)
        (size - header (BigEndian.toBytes address ++ bytes)) = stored := by
      rw [hlength, hheader]
      omega
    have hroom : 2 ≤ min (BigEndian.toBytes address ++ bytes).length size := by
      rw [hlength]
      omega
    obtain ⟨hcontents, hcursor, htold⟩ := p.send_of_stored hroom (hheader ▸ ha)
    rw [hstored, hheader] at hcontents hcursor htold
    refine ⟨hcontents, hcursor.trans (if_pos hs).symm, htold.trans ?_⟩
    by_cases h0 : stored = 0
    · rw [if_neg (by rw [hlength]; omega), if_pos h0]
    · rw [if_pos (by rw [hlength]; omega), if_neg h0]
  · have hstored : stored = 0 := by omega
    have hanswer : answer = ⟨_, p, []⟩ := send_of_ignored (.inl (by rw [hlength]; omega))
    rw [hanswer, hstored, List.take_zero, overlay_nil, if_neg hs, if_pos rfl]
    exact ⟨rfl, rfl, rfl⟩

/-- What an address alone does: it moves the cursor if it has room in the receive buffer.  That
takes two bytes, so a device of one byte cannot be told an address. -/
theorem send_address (ha : address.toNat < size) :
    let answer := p.send (BigEndian.toBytes address)
    answer.after.contents = p.contents ∧
      answer.after.cursor = (if 2 ≤ size then address.toNat else p.cursor) ∧ answer.told = [] := by
  intro answer
  obtain ⟨hcontents, hcursor, htold⟩ := send_toBytes (p := p) ha []
  rw [List.append_nil] at hcontents hcursor htold
  rw [List.take_nil, overlay_nil] at hcontents
  rw [List.length_nil, Nat.zero_min] at hcursor htold
  exact ⟨hcontents, hcursor, htold⟩

/-- What a seek followed by a read gives.  The cursor the read starts from is the only thing that
the seek can have changed. -/
theorem receive_after_send_toBytes (ha : address.toNat < size) (length : Nat) :
    ((p.send (BigEndian.toBytes address)).after.receive length).value
      = (p.contents.drop (if 2 ≤ size then address.toNat else p.cursor)).take length := by
  obtain ⟨hcontents, hcursor, -⟩ := send_address (p := p) ha
  simp only [receive]
  rw [hcontents, hcursor]

/-- What a read at an address answers, where there is room for the address.  Both halves are told of
as one access, since an address alone is none. -/
theorem receive_at (hs : 2 ≤ size) (ha : address.toNat < size) (length : Nat) :
    let sought := p.send (BigEndian.toBytes address)
    let answer := (sought.map fun _ => ()).andThen (sought.after.receive length)
    let bytes := (p.contents.drop address.toNat).take length
    answer.value = bytes ∧ answer.after.contents = p.contents ∧
      answer.after.cursor = address.toNat + bytes.length ∧
      answer.told = [⟨.read, address.toNat, bytes.length⟩] := by
  intro sought answer bytes
  obtain ⟨hcontents, hcursor, htold⟩ := send_address (p := p) ha
  rw [if_pos hs] at hcursor
  have hvalue : answer.value = bytes := by
    change (sought.after.contents.drop sought.after.cursor).take length = bytes
    rw [hcontents, hcursor]
  refine ⟨hvalue, hcontents, ?_, ?_⟩
  · change sought.after.cursor + answer.value.length = _
    rw [hcursor, hvalue]
  · change sought.told ++ [⟨.read, sought.after.cursor, answer.value.length⟩] = _
    rw [htold, hcursor, hvalue, List.nil_append]

end Plain

namespace Controller

variable {config : DeviceConfig} {η ω : Type} [Observer η ω] {l : Link η SimulatedBus}
  {address : UInt16}

theorem write_follows (h : Reachable config l.target.device) (hb : l.bus.Ready) (address : UInt16)
    (bytes : List UInt8) :
    Follows config (write address bytes : Call η ω Unit) l
      ((h.sound.plain.send (BigEndian.toBytes address ++ bytes)).map fun _ => ()) :=
  (send_follows h hb _).map fun _ => ()

theorem seek_follows (h : Reachable config l.target.device) (hb : l.bus.Ready)
    (address : UInt16) :
    Follows config (seek address : Call η ω Unit) l
      ((h.sound.plain.send (BigEndian.toBytes address)).map fun _ => ()) :=
  (send_follows h hb _).map fun _ => ()

theorem read_follows (h : Reachable config l.target.device) (hb : l.bus.Ready) (address : UInt16)
    (length : Nat) :
    Follows config (read address length : Call η ω (List UInt8)) l
      (((h.sound.plain.send (BigEndian.toBytes address)).map fun _ => ()).andThen
        ((h.sound.plain.send (BigEndian.toBytes address)).after.receive length)) := by
  refine (seek_follows h hb address).bind ?_
  intro k hk hc hplain
  have hreceive := receive_follows (η := η) (ω := ω) hk hc length
  rw [hplain] at hreceive
  exact hreceive

/-- What a read at an address gives: the bytes from there on, or from the cursor on where there is
no room for an address. -/
theorem read_result (h : Reachable config l.target.device) (hb : l.bus.Ready)
    (ha : address < config.size) (length : Nat) :
    ((read address length : Call η ω (List UInt8)).run l).result
      = .ok ((l.target.device.store.cells.drop
          (if 2 ≤ config.size.toNat then address.toNat else l.target.device.cursor.toNat)).take
            length) := by
  have hread := (read_follows (η := η) (ω := ω) h hb address length).result_eq
  have hvalue := Plain.receive_after_send_toBytes (p := h.sound.plain)
    (UInt16.lt_iff_toNat_lt.1 ha) length
  exact hread.trans (congrArg _ hvalue)

/-- What a write at an address leaves, on a device of any size.  The two main results are read off
this one; the case of a single byte is in it. -/
theorem write_effect (h : Reachable config l.target.device) (hb : l.bus.Ready)
    (ha : address < config.size) (bytes : List UInt8) :
    let size := config.size.toNat
    let stored := min bytes.length (min (size - 2) (size - address.toNat))
    let before := l.target.device
    let outcome := (write address bytes : Call η ω Unit).run l
    let after := outcome.state.target.device
    outcome.result = .ok () ∧
      after.store.cells = overlay before.store.cells address.toNat (bytes.take stored) ∧
      after.cursor.toNat = (if 2 ≤ size then address.toNat + stored else before.cursor.toNat) ∧
      Tells l.target.observer outcome
        (if stored = 0 then [] else [⟨.write, address.toNat, stored⟩]) ∧
      Reachable config after ∧ outcome.state.bus.Ready := by
  intro size stored before outcome after
  have hw := write_follows (η := η) (ω := ω) h hb address bytes
  obtain ⟨hd, hplain⟩ := hw.plain_eq
  obtain ⟨hcontents, hcursor, htold⟩ :=
    Plain.send_toBytes (p := h.sound.plain) (UInt16.lt_iff_toNat_lt.1 ha) bytes
  have htells : Tells l.target.observer outcome
      (h.sound.plain.send (BigEndian.toBytes address ++ bytes)).told := hw.tells
  rw [htold] at htells
  exact ⟨hw.result_eq, (congrArg Plain.contents hplain).trans hcontents,
    (congrArg Plain.cursor hplain).trans hcursor, htells, hd, hw.ready⟩

/-- **What a write at an address does.**  Of the data, as much is stored as fits behind the address
both in the receive buffer and in the device; it can be read again if that is all of it. -/
theorem write_stores_what_fits (h : Reachable config l.target.device) (hb : l.bus.Ready)
    (ha : address < config.size) (bytes : List UInt8) :
    let size := config.size.toNat
    let stored := min bytes.length (min (size - 2) (size - address.toNat))
    let before := l.target.device
    let outcome := (write address bytes : Call η ω Unit).run l
    let after := outcome.state.target.device
    outcome.result = .ok () ∧
      (∀ i : Nat, after.store.cells[i]? =
        if address.toNat ≤ i ∧ i < address.toNat + stored then bytes[i - address.toNat]?
        else before.store.cells[i]?) ∧
      (2 ≤ size → after.cursor.toNat = address.toNat + stored) ∧
      Tells l.target.observer outcome
        (if stored = 0 then [] else [⟨.write, address.toNat, stored⟩]) ∧
      (bytes.length + 2 ≤ size → address.toNat + bytes.length ≤ size →
        ((read address bytes.length : Call η ω (List UInt8)).run outcome.state).result
          = .ok bytes) := by
  intro size stored before outcome after
  obtain ⟨hresult, hcells, hcursor, htells, hd, hready⟩ :=
    write_effect (η := η) (ω := ω) h hb ha bytes
  have hread := read_result (η := η) (ω := ω) hd hready ha bytes.length
  have ha : address.toNat < size := UInt16.lt_iff_toNat_lt.1 ha
  have hlength : l.target.device.store.cells.length = size := h.sound.length_cells
  have hend : address.toNat + stored ≤ size := by omega
  -- The cells are known as an overlay; place by place it is what the statement says.
  refine ⟨hresult, ?_, ?_, htells, ?_⟩
  · intro i
    rw [hcells, getElem?_overlay, List.length_take_of_le (Nat.min_le_left ..)]
    by_cases hi : address.toNat ≤ i ∧ i < address.toNat + stored
    · rw [if_pos (by omega), if_pos hi, List.getElem?_take_of_lt (by omega)]
    · rw [if_neg (by omega), if_neg hi]
  · intro hs
    exact hcursor.trans (if_pos hs)
  · intro hroom hfits
    have hall : bytes.take stored = bytes := List.take_of_length_le (by omega)
    rw [if_pos (by omega), hcells, hall] at hread
    exact hread.trans (congrArg _ (take_drop_overlay (by omega)))

/-- Six bytes fill both the receive buffer and the device, and come back.  From address two on, the
two bounds are one. -/
theorem write_stores_full_buffer :
    let config : DeviceConfig := { size := 8 }
    let d := (Device.fresh config).after [.load 0 [7, 7, 7, 7, 7, 7, 7, 7]]
    let l : Link Recorder SimulatedBus := ⟨⟨d, none⟩, { enabled := some config.bus }⟩
    let data : List UInt8 := [1, 2, 3, 4, 5, 6]
    let outcome := (write 2 data : Call Recorder Record Unit).run l
    Reachable config d ∧ l.bus.Ready ∧
      outcome.state.target.device.store.cells = [7, 7, 1, 2, 3, 4, 5, 6] ∧
      outcome.state.target.device.cursor.toNat = 8 ∧
      ((read 2 data.length : Call Recorder Record (List UInt8)).run outcome.state).result
        = .ok data := by
  intro config d l data outcome
  have hd : Reachable config d := .of_moves rfl _
  have hb : l.bus.Ready := ⟨rfl, rfl⟩
  obtain ⟨-, -, hcursor, -, hread⟩ :=
    write_stores_what_fits (l := l) hd hb (by decide : (2 : UInt16) < config.size) data
  have hend : outcome.state.target.device.cursor.toNat = 8 := by
    rw [hcursor (by decide)]
    decide
  exact ⟨hd, hb, by decide +kernel, hend, hread (by decide) (by decide)⟩

/-- Of nine bytes for the seven places from the second on, six are stored.  The last place would
have had a byte, if the address had not taken the room for it. -/
theorem write_leaves_last_place :
    let config : DeviceConfig := { size := 8 }
    let l : Link Recorder SimulatedBus :=
      ⟨⟨.fresh config, some ⟨"h", .plain⟩⟩, { enabled := some config.bus }⟩
    let data : List UInt8 := [1, 2, 3, 4, 5, 6, 7, 8, 9]
    let outcome := (write 1 data : Call Recorder Record Unit).run l
    let after := outcome.state.target.device
    Reachable config l.target.device ∧ l.bus.Ready ∧ outcome.result = .ok () ∧
      min data.length (config.size.toNat - 1) = 7 ∧
      outcome.reports.map Record.notification = [⟨.write, 1, 6⟩] ∧ after.cursor = 7 ∧
      after.store.cells = [0, 1, 2, 3, 4, 5, 6, 0] ∧
      ¬ ∀ i < min data.length (config.size.toNat - 1), after.store.cells[1 + i]? = data[i]? := by
  intro config l data outcome after
  exact ⟨.of_moves rfl [], ⟨rfl, rfl⟩, rfl, by decide, by decide +kernel, by decide +kernel,
    by decide +kernel, by decide +kernel⟩

/-- What is read of a single byte does not depend on where the cursor is only if nothing is.  There
are two places for the cursor, in front of the byte and behind it. -/
theorem take_drop_single (byte : UInt8) {cursor : Nat} (hc : cursor ≤ 1) (length : Nat) :
    ([byte].drop cursor).take length = [byte].take length ↔ cursor = 0 ∨ length = 0 := by
  rcases Nat.le_one_iff_eq_zero_or_eq_one.1 hc with rfl | rfl
  · exact ⟨fun _ => .inl rfl, fun _ => rfl⟩
  · cases length with
    | zero => exact ⟨fun _ => .inr rfl, fun _ => rfl⟩
    | succ length =>
      constructor
      · intro h; cases h
      · rintro (h | h) <;> cases h

/-- **A seek moves the cursor exactly if an address has room in the receive buffer, or the cursor
is there already**, and a read at an address then gives the bytes from there on.  Either way it is
said to have worked, and changes and notifies nothing. -/
theorem seek_moves_iff (h : Reachable config l.target.device) (hb : l.bus.Ready)
    (ha : address < config.size) (length : Nat) :
    let before := l.target.device
    let sought := (seek address : Call η ω Unit).run l
    let got := (read address length : Call η ω (List UInt8)).run l
    let after := sought.state.target.device
    sought.result = .ok () ∧ after.store.cells = before.store.cells ∧
      Tells l.target.observer sought [] ∧
      (after.cursor = address ↔ 2 ≤ config.size.toNat ∨ before.cursor = address) ∧
      (got.result = .ok ((before.store.cells.drop address.toNat).take length) ↔
        2 ≤ config.size.toNat ∨ before.cursor = address ∨ length = 0) := by
  intro before sought got after
  -- a seek is a write without data
  obtain ⟨hresult, hcells, hcursor, htells, -, -⟩ := write_effect (η := η) (ω := ω) h hb ha []
  rw [List.take_nil, overlay_nil] at hcells
  rw [List.length_nil, Nat.zero_min, Nat.add_zero] at hcursor
  rw [List.length_nil, Nat.zero_min, if_pos rfl] at htells
  have hafter : after.cursor.toNat
      = if 2 ≤ config.size.toNat then address.toNat else before.cursor.toNat := hcursor
  have hgot : got.result = _ := read_result h hb ha length
  have ha : address.toNat < config.size.toNat := UInt16.lt_iff_toNat_lt.1 ha
  refine ⟨hresult, hcells, htells, ?_, ?_⟩
  · rw [← UInt16.toNat_inj, hafter]
    by_cases hs : 2 ≤ config.size.toNat
    · rw [if_pos hs]
      exact ⟨fun _ => .inl hs, fun _ => rfl⟩
    · rw [if_neg hs, UInt16.toNat_inj]
      exact ⟨.inr, fun hc => hc.resolve_left hs⟩
  · rw [hgot]
    by_cases hs : 2 ≤ config.size.toNat
    · rw [if_pos hs]
      exact ⟨fun _ => .inl hs, fun _ => rfl⟩
    · -- the device has a single byte, and the cursor is on it or behind it
      have hone : config.size.toNat = 1 := by omega
      obtain ⟨byte, hcells⟩ := List.length_eq_one_iff.1 (h.sound.length_cells.trans hone)
      have hzero : address.toNat = 0 := by omega
      have hread := take_drop_single byte (hone ▸ h.sound.cursor_le) length
      have hcursor : before.cursor = address ↔ before.cursor.toNat = 0 := by
        rw [← UInt16.toNat_inj, hzero]
      rw [if_neg hs, hcells, hzero, Except.ok.injEq, List.drop_zero, hread, hcursor]
      exact (or_iff_right hs).symm

theorem seek_moves_from_end :
    let config : DeviceConfig := { size := 4 }
    let bus : SimulatedBus := { enabled := some config.bus }
    let d := (Device.fresh config).after
      [.load 0 [5, 6, 7, 8], .event bus .readRequested, .event bus (.readDone 9)]
    let l : Link Recorder SimulatedBus := ⟨⟨d, none⟩, bus⟩
    Reachable config d ∧ l.bus.Ready ∧ d.cursor = 4 ∧
      ((seek 1 : Call Recorder Record Unit).run l).state.target.device.cursor = 1 ∧
      ((read 1 9 : Call Recorder Record (List UInt8)).run l).result = .ok [6, 7, 8] := by
  intro config bus d l
  have hd : Reachable config d := .of_moves rfl _
  have hb : l.bus.Ready := ⟨rfl, rfl⟩
  obtain ⟨-, -, -, hcursor, hread⟩ :=
    seek_moves_iff (l := l) hd hb (by decide : (1 : UInt16) < config.size) 9
  have hrest : (d.store.cells.drop (1 : UInt16).toNat).take 9 = [6, 7, 8] := by decide +kernel
  exact ⟨hd, hb, by decide +kernel, hcursor.2 (.inl (by decide)),
    (hread.2 (.inl (by decide))).trans (congrArg _ hrest)⟩

/-- A device of a single byte is accepted, but once that byte was read no seek leads back to it.
The seek says that it worked, and the read that follows finds nothing. -/
theorem seek_fails_on_single_byte :
    let config : DeviceConfig := { size := 1 }
    let bus : SimulatedBus := { enabled := some config.bus }
    let d := (Device.fresh config).after
      [.load 0 [5], .event bus .readRequested, .event bus (.readDone 1)]
    let l : Link Recorder SimulatedBus := ⟨⟨d, none⟩, bus⟩
    let sought := (seek 0 : Call Recorder Record Unit).run l
    config.validate = .ok () ∧ Reachable config d ∧ l.bus.Ready ∧ d.snapshot = [5] ∧
      sought.result = .ok () ∧ sought.state.target.device.cursor = 1 ∧
      ((read 0 1 : Call Recorder Record (List UInt8)).run l).result = .ok [] := by
  intro config bus d l sought
  have hd : Reachable config d := .of_moves rfl _
  have hb : l.bus.Ready := ⟨rfl, rfl⟩
  have hread := read_result (l := l) hd hb (by decide : (0 : UInt16) < config.size) 1
  have hrest : (d.store.cells.drop d.cursor.toNat).take 1 = [] := by decide +kernel
  exact ⟨rfl, hd, hb, by decide +kernel, (seek_follows hd hb 0).result_eq, by decide +kernel,
    hread.trans (congrArg Except.ok hrest)⟩

end Controller

end SerialEeprom
