/-
# Transfers in pieces

A controller may read or write in as many transactions as it likes.  This module shows that it has
the same of it as of one transaction, wherever the cuts are, also where the device ends within a
piece or before one.

For reads the reason is that the cursor stops where the next read starts (`receive_add`).  At the
end of the device it stays there, so further pieces are empty, and so would the rest of the one read
have been.

For writes at consecutive addresses there are two reasons: what an earlier piece stored a later one
does not touch, and a piece that would start behind the end is dropped with its address, by when the
cursor is at the end already.  The last needs care.  A write behind the end leaves the cursor where
it was, which is right only if it was at the end; so the invariant of the induction says where the
cursor is, and is carried by `Wrote`.

Pieces may be empty.  An empty read is notified, with a length of nought; an empty write is an
address alone, moves the cursor and is not.  So for reads there are as many accesses to tell of as
pieces, and for writes there may be fewer; in both cases they tile the range that was moved over
(`Tiles`), as each starts where the one before it ended.

Both are proved of plain EEPROMs by induction on the pieces, and carried over by one lemma about
calls made one after the other (`Follows.mapM`).

Main statements: reads in pieces give the bytes of one read (`split_reads_join`), writes in pieces
leave what one write leaves (`split_writes_join`), and both are notified as rows of accesses without
a gap.
-/
import Mathlib.Algebra.GroupWithZero.Nat
import SerialEeprom.Proofs.Addressed

namespace SerialEeprom

namespace Plain

variable {size : Nat} {α β : Type}

/-! ## 1. One call after the other -/

/-- The answers to a call for each of these, one after the other.  The call may differ in its
argument only. -/
def each (call : α → Plain size → Answer size β) : List α → Plain size → Answer size (List β)
  | [], p => ⟨[], p, []⟩
  | x :: xs, p =>
    let first := call x p
    first.andThen ((each call xs first.after).map (first.value :: ·))

/-- The accesses go from `start` to `stop`, each from where the one before it ended.  All are of one
kind; some may be empty. -/
def Tiles (access : Access) : Nat → List Completion → Nat → Prop
  | start, [], stop => start = stop
  | start, c :: told, stop =>
    c.access = access ∧ c.address = start ∧ Tiles access (start + c.length) told stop

theorem Tiles.append {access : Access} {start middle stop : Nat} {first second : List Completion}
    (hfirst : Tiles access start first middle) (hsecond : Tiles access middle second stop) :
    Tiles access start (first ++ second) stop := by
  induction first generalizing start with
  | nil =>
    obtain rfl : start = middle := hfirst
    exact hsecond
  | cons c first ih =>
    obtain ⟨haccess, haddress, hrest⟩ := hfirst
    exact ⟨haccess, haddress, ih hrest⟩

/-! ## 2. Reads

One read is cut in two; the rest is induction. -/

/-- A read may stop anywhere and go on from there.  Behind the end, both parts are empty. -/
theorem receive_add (p : Plain size) (m n : Nat) :
    let first := p.receive m
    let second := first.after.receive n
    (p.receive (m + n)).value = first.value ++ second.value ∧
      (p.receive (m + n)).after = second.after := by
  intro first second
  let rest := p.contents.drop p.cursor
  have hdrop : rest.drop (rest.take m).length = rest.drop m := by
    rw [List.length_take]
    rcases Nat.le_total m rest.length with h | h
    · rw [Nat.min_eq_left h]
    · rw [Nat.min_eq_right h, List.drop_length, List.drop_of_length_le h]
  have hvalue : (p.receive (m + n)).value = first.value ++ second.value := by
    change rest.take (m + n)
      = rest.take m ++ (p.contents.drop (p.cursor + (rest.take m).length)).take n
    rw [← List.drop_drop, hdrop, List.take_add]
  refine ⟨hvalue, Plain.ext rfl ?_⟩
  change p.cursor + (p.receive (m + n)).value.length
    = p.cursor + first.value.length + second.value.length
  rw [hvalue, List.length_append, Nat.add_assoc]

/-- **Reads in pieces give what one read of all of it gives.**  By induction on the pieces, the
first of which is split off. -/
theorem each_receive (lengths : List Nat) (p : Plain size) :
    let answer := each receive lengths p
    answer.value.flatten = (p.receive lengths.sum).value ∧
      answer.after = (p.receive lengths.sum).after ∧
      answer.value.length = lengths.length ∧
      answer.told.map Completion.length = answer.value.map List.length ∧
      Tiles .read p.cursor answer.told answer.after.cursor := by
  induction lengths generalizing p with
  | nil => exact ⟨rfl, rfl, rfl, rfl, rfl⟩
  | cons n lengths ih =>
    intro answer
    obtain ⟨hvalue, hafter, hlength, hpieces, htiles⟩ := ih (p.receive n).after
    obtain ⟨hboth, hend⟩ := p.receive_add n lengths.sum
    refine ⟨?_, hafter.trans hend.symm, congrArg Nat.succ hlength, congrArg (_ :: ·) hpieces,
      rfl, rfl, htiles⟩
    rw [List.sum_cons, hboth, ← hvalue]
    rfl

theorem receive_cursor (p : Plain size) (length : Nat) :
    (p.receive length).after.cursor = min size (p.cursor + length) := by
  have hcontents := p.length_contents
  have hcursor := p.cursor_le
  simp only [receive, List.length_take, List.length_drop]
  omega

theorem receive_value (p : Plain size) (length : Nat) :
    (p.receive length).value = p.contents.extract p.cursor (min size (p.cursor + length)) := by
  have hcontents := p.length_contents
  rw [List.extract_eq_take_drop]
  refine List.take_eq_take_iff.2 ?_
  rw [List.length_drop]
  omega

/-- Behind the last byte there is nothing to read.  The cursor stays there, so no later read finds
anything either. -/
theorem receive_of_end {p : Plain size} (h : p.cursor = size) (length : Nat) :
    (p.receive length).value = [] := by
  simp only [receive]
  have hlength : p.contents.length ≤ p.cursor := Nat.le_of_eq (p.length_contents.trans h.symm)
  rw [List.drop_of_length_le hlength, List.take_nil]

/-! ## 3. Writes

An empty list of pieces moves no cursor, which is why it is left out where one write would. -/

/-- Write bytes at an address.  Address and bytes go to the plain EEPROM as one transaction. -/
def put (address : UInt16) (bytes : List UInt8) (p : Plain size) : Answer size Unit :=
  (p.send (BigEndian.toBytes address ++ bytes)).map fun _ => ()

/-- Each of these pieces, with the address behind those before it.  The sum is taken over numbers
and then made a word; that it fits is a condition of its use. -/
def placed (start : Nat) (pieces : List (List UInt8)) : List (UInt16 × List UInt8) :=
  pieces.mapIdx fun i piece => (UInt16.ofNat (start + (pieces.take i).flatten.length), piece)

theorem placed_cons (start : Nat) (piece : List UInt8) (pieces : List (List UInt8)) :
    placed start (piece :: pieces)
      = (UInt16.ofNat start, piece) :: placed (start + piece.length) pieces := by
  simp only [placed, List.mapIdx_cons, List.take_zero, List.flatten_nil, List.length_nil,
    Nat.add_zero, List.take_succ_cons, List.flatten_cons, List.length_append, Nat.add_assoc]

/-- These bytes are written from `start` on as far as there is room, the cursor is where they end,
and what is told covers the places that were written. -/
structure Wrote (p : Plain size) (start : Nat) (bytes : List UInt8) (answer : Answer size β) :
    Prop where
  contents_eq : answer.after.contents = overlay p.contents start bytes
  cursor_eq : answer.after.cursor = min size (start + bytes.length)
  tiles : Tiles .write (min size start) answer.told (min size (start + bytes.length))
  told_pos : ∀ c ∈ answer.told, 0 < c.length

/-- A write behind the end is dropped, and leaves the cursor there if it is there.  A write that
reaches the end is cut, and leaves the cursor there in any case. -/
theorem put_wrote {p : Plain size} {start : Nat} {piece : List UInt8} (hstart : start ≤ 0xffff)
    (hroom : piece.length + 2 ≤ size) (hend : size ≤ start → p.cursor = size) :
    Wrote p start piece (p.put (UInt16.ofNat start) piece) := by
  have haddress : (UInt16.ofNat start).toNat = start := by
    rw [UInt16.toNat_ofNat', Nat.mod_eq_of_lt (by omega)]
  by_cases ha : start < size
  · obtain ⟨hcontents, hcursor, htold⟩ := send_toBytes (p := p) (haddress.symm ▸ ha) piece
    have hstored : min piece.length (min (size - 2) (size - start))
        = min piece.length (size - start) := by omega
    rw [haddress, hstored] at hcontents hcursor htold
    rw [if_pos (by omega)] at hcursor
    have hcut : overlay p.contents start (piece.take (min piece.length (size - start)))
        = overlay p.contents start piece := by
      refine overlay_take p.contents piece ?_
      rw [p.length_contents]
      omega
    refine ⟨hcontents.trans hcut, hcursor.trans (by omega), ?_, ?_⟩
    · change Tiles .write (min size start) (p.send _).told _
      rw [htold]
      split
      · exact (by omega : min size start = min size (start + piece.length))
      · exact ⟨rfl, (Nat.min_eq_right (Nat.le_of_lt ha)).symm,
          (by omega : min size start + min piece.length (size - start) = _)⟩
    · change ∀ c ∈ (p.send _).told, 0 < c.length
      rw [htold]
      split
      · intro c hc
        exact absurd hc List.not_mem_nil
      · intro c hc
        rw [List.mem_singleton.1 hc]
        exact Nat.pos_of_ne_zero ‹_›
  · -- The address is behind the end: nothing is done, and nothing had to be done.
    have ha := Nat.not_lt.1 ha
    have hignored : p.send (BigEndian.toBytes (UInt16.ofNat start) ++ piece) = ⟨_, p, []⟩ :=
      send_of_ignored (.inr (by rw [header_toBytes, haddress]; exact ha))
    have hanswer : p.put (UInt16.ofNat start) piece = ⟨(), p, []⟩ := by rw [put, hignored]; rfl
    rw [hanswer]
    refine ⟨?_, (hend ha).trans (by omega),
      (by omega : min size start = min size (start + piece.length)), ?_⟩
    · exact (overlay_of_le (p.length_contents.symm ▸ ha) piece).symm
    · intro c hc
      exact absurd hc List.not_mem_nil

theorem Wrote.map {γ : Type} {p : Plain size} {start : Nat} {bytes : List UInt8}
    {answer : Answer size β} (h : Wrote p start bytes answer) (f : β → γ) :
    Wrote p start bytes (answer.map f) :=
  ⟨h.contents_eq, h.cursor_eq, h.tiles, h.told_pos⟩

/-- Bytes may be written in two parts, the second behind the first.  Where the first part ends, as
far as there was room, the second starts. -/
theorem Wrote.andThen {γ : Type} {p : Plain size} {start : Nat} {first second : List UInt8}
    {answer : Answer size β} {later : Answer size γ} (hfirst : Wrote p start first answer)
    (hsecond : Wrote answer.after (start + first.length) second later) :
    Wrote p start (first ++ second) (answer.andThen later) where
  contents_eq := by
    rw [← overlay_append, ← hfirst.contents_eq]
    exact hsecond.contents_eq
  cursor_eq := by
    rw [List.length_append, ← Nat.add_assoc]
    exact hsecond.cursor_eq
  tiles := by
    rw [List.length_append, ← Nat.add_assoc]
    exact hfirst.tiles.append hsecond.tiles
  told_pos c hc := (List.mem_append.1 hc).elim (hfirst.told_pos c) (hsecond.told_pos c)

/-- **Writes in pieces leave what one write of all of it leaves**, if the first of them does not
start behind the end. -/
theorem each_put (pieces : List (List UInt8)) {p : Plain size} {start : Nat}
    (hfits : start + pieces.flatten.length ≤ 0xffff) (hroom : pieces.flatten.length + 2 ≤ size)
    (hnone : pieces = [] → p.cursor = min size start) (hend : size ≤ start → p.cursor = size) :
    Wrote p start pieces.flatten (each (fun w => put w.1 w.2) (placed start pieces) p) := by
  induction pieces generalizing p start with
  | nil =>
    exact ⟨(overlay_nil ..).symm, hnone rfl, rfl, fun _ hc => absurd hc List.not_mem_nil⟩
  | cons piece pieces ih =>
    rw [List.flatten_cons, List.length_append] at hfits hroom
    have hfirst : Wrote p start piece (p.put (UInt16.ofNat start) piece) :=
      put_wrote (by omega) (by omega) hend
    have hcursor := hfirst.cursor_eq
    have hrest : Wrote (p.put (UInt16.ofNat start) piece).after (start + piece.length)
        pieces.flatten (each (fun w => put w.1 w.2) (placed (start + piece.length) pieces) _) :=
      ih (by omega) (by omega) (fun _ => hcursor) (by omega)
    rw [placed_cons]
    exact hfirst.andThen (hrest.map _)

end Plain

/-! ## 4. From the far side

The same on a device, in any state it can get into, over a bus that answers. -/

namespace Controller

variable {config : DeviceConfig} {η ω α β : Type} [Observer η ω] {l : Link η SimulatedBus}

/-- Calls that follow the plain EEPROM do so one after the other.  Each starts from the device that
the one before it has left. -/
theorem Follows.mapM {call : α → Call η ω β}
    {answer : α → Plain config.size.toNat → Plain.Answer config.size.toNat β}
    (hcall : ∀ (x : α) {k : Link η SimulatedBus} (h : Reachable config k.target.device),
      k.bus.Ready → Follows config (call x) k (answer x h.sound.plain))
    (xs : List α) (h : Reachable config l.target.device) (hb : l.bus.Ready) :
    Follows config (xs.mapM call) l (Plain.each answer xs h.sound.plain) := by
  induction xs generalizing l with
  | nil =>
    rw [List.mapM_nil]
    exact .of_yields (.pure l []) h rfl hb rfl
  | cons x xs ih =>
    rw [List.mapM_cons]
    refine (hcall x h hb).bind ?_
    intro k hk hc hplain
    rw [← hplain]
    exact (ih hk hc).map (_ :: ·)

theorem receives_follow (h : Reachable config l.target.device) (hb : l.bus.Ready)
    (lengths : List Nat) :
    Follows config (lengths.mapM receive : Call η ω (List (List UInt8))) l
      (Plain.each Plain.receive lengths h.sound.plain) :=
  Follows.mapM (fun length _ h hb => receive_follows h hb length) lengths h hb

/-- **Reads in pieces join to one read.**  Together they give the bytes from the cursor on, up to
the end of the device, and leave the cursor behind them; each is notified, and these accesses follow
each other without a gap.  At the end of the device, there is nothing more to read. -/
theorem split_reads_join (h : Reachable config l.target.device) (hb : l.bus.Ready)
    (lengths : List Nat) :
    let before := l.target.device
    let size := config.size.toNat
    let start := before.cursor.toNat
    let stop := min size (start + lengths.sum)
    let split := (lengths.mapM receive : Call η ω (List (List UInt8))).run l
    let whole := (receive lengths.sum : Call η ω (List UInt8)).run l
    ∃ (pieces : List (List UInt8)) (told : List Plain.Completion),
      split.result = .ok pieces ∧ pieces.length = lengths.length ∧
      pieces.flatten = before.store.cells.extract start stop ∧
      whole.result = .ok pieces.flatten ∧
      split.state.target.device.store.cells = before.store.cells ∧
      whole.state.target.device.store.cells = before.store.cells ∧
      split.state.target.device.cursor.toNat = stop ∧
      whole.state.target.device.cursor.toNat = stop ∧
      Tells l.target.observer split told ∧
      told.map Plain.Completion.length = pieces.map List.length ∧
      Plain.Tiles .read start told stop ∧
      (stop = size → ∀ more : List Nat,
        let further := (more.mapM receive : Call η ω (List (List UInt8))).run split.state
        (∃ rest : List (List UInt8), further.result = .ok rest ∧ rest.length = more.length ∧
          ∀ piece ∈ rest, piece = []) ∧
        further.state.target.device.cursor.toNat = size) := by
  intro before size start stop split whole
  have hsplit := receives_follow (η := η) (ω := ω) h hb lengths
  have hwhole := receive_follows (η := η) (ω := ω) h hb lengths.sum
  obtain ⟨hvalue, hafter, hlength, htold, htiles⟩ := Plain.each_receive lengths h.sound.plain
  obtain ⟨hd, hplain⟩ := hsplit.plain_eq
  obtain ⟨_, hplain'⟩ := hwhole.plain_eq
  have hstop : (h.sound.plain.receive lengths.sum).after.cursor = stop :=
    h.sound.plain.receive_cursor lengths.sum
  refine ⟨_, _, hsplit.result_eq, hlength, hvalue.trans (h.sound.plain.receive_value lengths.sum),
    hwhole.result_eq.trans (congrArg _ hvalue.symm), ?_, ?_, ?_, ?_, hsplit.tells, htold, ?_, ?_⟩
  · exact (congrArg Plain.contents hplain).trans (congrArg Plain.contents hafter)
  · exact congrArg Plain.contents hplain'
  · exact (congrArg Plain.cursor hplain).trans ((congrArg Plain.cursor hafter).trans hstop)
  · exact (congrArg Plain.cursor hplain').trans hstop
  · rwa [hafter, hstop] at htiles
  · -- At the end there is nothing left to read, and the cursor stays.
    intro hend more further
    have hmore := receives_follow (η := η) (ω := ω) hd hsplit.ready more
    obtain ⟨hnone, hafter', hlength', -, -⟩ := Plain.each_receive more hd.sound.plain
    obtain ⟨_, hplain'⟩ := hmore.plain_eq
    have hcursor : hd.sound.plain.cursor = size := by rw [hplain, hafter, hstop, hend]
    rw [Plain.receive_of_end hcursor, List.flatten_eq_nil_iff] at hnone
    refine ⟨⟨_, hmore.result_eq, hlength', hnone⟩, (congrArg Plain.cursor hplain').trans ?_⟩
    rw [hafter', Plain.receive_cursor, hcursor]
    exact Nat.min_eq_left (Nat.le_add_right ..)

/-- Four reads over the end of the device, the second of nothing, while a write is open. -/
theorem split_reads_join_over_end :
    let config : DeviceConfig := { size := 8 }
    let bus : SimulatedBus := { enabled := some config.bus, offered := [9], capacity := some 3 }
    let d := (Device.fresh config).after
      [.load 0 [1, 2, 3, 4, 5, 6, 7, 8], .event bus .readRequested, .event bus (.readDone 1),
        .event bus .writeRequested]
    let l : Link Recorder SimulatedBus := ⟨⟨d, some ⟨"h", .plain⟩⟩, bus⟩
    let lengths := [2, 0, 4, 9]
    let split := (lengths.mapM receive : Call Recorder Record (List (List UInt8))).run l
    let whole := (receive lengths.sum : Call Recorder Record (List UInt8)).run l
    Reachable config d ∧ l.bus.Ready ∧ d.cursor = 1 ∧
      (∃ pieces, split.result = .ok pieces ∧ pieces.length = 4 ∧
        pieces.flatten = [2, 3, 4, 5, 6, 7, 8] ∧ whole.result = .ok pieces.flatten) ∧
      split.reports.map Record.notification
        = [⟨.read, 1, 2⟩, ⟨.read, 3, 0⟩, ⟨.read, 3, 4⟩, ⟨.read, 7, 1⟩] ∧
      whole.reports.map Record.notification = [⟨.read, 1, 7⟩] ∧
      split.state.target.device.cursor = 8 := by
  intro config bus d l lengths
  dsimp only
  have hd : Reachable config d := .of_moves rfl _
  have hb : l.bus.Ready := ⟨rfl, rfl⟩
  obtain ⟨pieces, told, hsplit, hlength, hpieces, hwhole, -⟩ :=
    split_reads_join (l := l) hd hb lengths
  have hslice : pieces.flatten = [2, 3, 4, 5, 6, 7, 8] := hpieces.trans (by decide +kernel)
  refine ⟨hd, hb, ?_, ⟨pieces, hsplit, hlength, hslice, hwhole⟩, ?_, ?_, ?_⟩
  · decide +kernel
  · decide +kernel
  · decide +kernel
  · decide +kernel

theorem writes_follow (h : Reachable config l.target.device) (hb : l.bus.Ready)
    (writes : List (UInt16 × List UInt8)) :
    Follows config (writes.mapM fun w => write w.1 w.2 : Call η ω (List Unit)) l
      (Plain.each (fun w => Plain.put w.1 w.2) writes h.sound.plain) :=
  Follows.mapM (fun w _ h hb => write_follows h hb w.1 w.2) writes h hb

/-- **Writes in pieces join to one write.**  Together they leave the contents and the cursor that
the write of all the bytes leaves, be the end of the device within a piece or before one.  Those
that store anything are notified, and these accesses cover, without a gap, the range that the one
write notifies. -/
theorem split_writes_join (h : Reachable config l.target.device) (hb : l.bus.Ready)
    {address : UInt16} (ha : address < config.size) {pieces : List (List UInt8)}
    (hpieces : pieces ≠ []) (hroom : pieces.flatten.length + 2 ≤ config.size.toNat)
    (hfits : address.toNat + pieces.flatten.length ≤ 0xffff) :
    let start := address.toNat
    let stop := min config.size.toNat (start + pieces.flatten.length)
    let split := ((Plain.placed start pieces).mapM fun w => write w.1 w.2 :
      Call η ω (List Unit)).run l
    let whole := (write address pieces.flatten : Call η ω Unit).run l
    ∃ (done : List Unit) (told : List Plain.Completion),
      split.result = .ok done ∧ whole.result = .ok () ∧
      split.state.target.device.store.cells = whole.state.target.device.store.cells ∧
      split.state.target.device.cursor = whole.state.target.device.cursor ∧
      Tells l.target.observer split told ∧ (∀ c ∈ told, 0 < c.length) ∧
      Plain.Tiles .write start told stop ∧
      Tells l.target.observer whole
        (if pieces.flatten = [] then [] else [⟨.write, start, stop - start⟩]) := by
  intro start stop split whole
  have hsize : start < config.size.toNat := UInt16.lt_iff_toNat_lt.1 ha
  have hsplit := writes_follow (η := η) (ω := ω) h hb (Plain.placed start pieces)
  have hwhole := write_follows (η := η) (ω := ω) h hb address pieces.flatten
  obtain ⟨_, hplain⟩ := hsplit.plain_eq
  obtain ⟨_, hplain'⟩ := hwhole.plain_eq
  have hpart : Plain.Wrote h.sound.plain start pieces.flatten
      (Plain.each (fun w => Plain.put w.1 w.2) (Plain.placed start pieces) h.sound.plain) :=
    Plain.each_put pieces hfits hroom (fun hnone => absurd hnone hpieces) (by omega)
  -- The whole write is the case of one piece, so both sides leave what `Wrote` says.
  have hall : Plain.Wrote h.sound.plain start pieces.flatten
      (h.sound.plain.put address pieces.flatten) := by
    have hput : Plain.Wrote h.sound.plain start pieces.flatten
        (h.sound.plain.put (UInt16.ofNat start) pieces.flatten) :=
      Plain.put_wrote (by omega) hroom (by omega)
    rwa [UInt16.ofNat_toNat] at hput
  obtain ⟨hresult, -, -, htells, -, -⟩ := write_effect (η := η) (ω := ω) h hb ha pieces.flatten
  refine ⟨_, _, hsplit.result_eq, hresult, ?_, ?_, hsplit.tells, hpart.told_pos, ?_, ?_⟩
  · calc
      split.state.target.device.store.cells
          = overlay l.target.device.store.cells start pieces.flatten :=
            (congrArg Plain.contents hplain).trans hpart.contents_eq
      _ = whole.state.target.device.store.cells :=
            ((congrArg Plain.contents hplain').trans hall.contents_eq).symm
  · rw [← UInt16.toNat_inj]
    calc
      split.state.target.device.cursor.toNat = stop :=
            (congrArg Plain.cursor hplain).trans hpart.cursor_eq
      _ = whole.state.target.device.cursor.toNat :=
            ((congrArg Plain.cursor hplain').trans hall.cursor_eq).symm
  · have htiles := hpart.tiles
    rwa [Nat.min_eq_right (Nat.le_of_lt hsize)] at htiles
  · have hstored : min pieces.flatten.length
          (min (config.size.toNat - 2) (config.size.toNat - address.toNat)) = stop - start := by
      omega
    have hnothing : stop - start = 0 ↔ pieces.flatten = [] := by
      rw [← List.length_eq_zero_iff]
      omega
    rw [hstored] at htells
    simpa only [hnothing] using htells

/-- Five writes, the second up to the end of the device and three behind it. -/
theorem split_writes_join_over_end :
    let config : DeviceConfig := { size := 8 }
    let bus : SimulatedBus := { enabled := some config.bus, incoming := [9] }
    let d := (Device.fresh config).after [.load 0 [7, 7, 7, 7, 7, 7, 7, 7]]
    let l : Link Recorder SimulatedBus := ⟨⟨d, some ⟨"h", .plain⟩⟩, bus⟩
    let address : UInt16 := 5
    let pieces : List (List UInt8) := [[1, 2], [3], [], [4, 5], [6]]
    let split := ((Plain.placed address.toNat pieces).mapM fun w => write w.1 w.2 :
      Call Recorder Record (List Unit)).run l
    let whole := (write address pieces.flatten : Call Recorder Record Unit).run l
    Reachable config d ∧ l.bus.Ready ∧ pieces ≠ [] ∧ pieces.flatten.length + 2 ≤ 8 ∧
      Plain.placed address.toNat pieces = [(5, [1, 2]), (7, [3]), (8, []), (8, [4, 5]), (10, [6])] ∧
      whole.state.target.device.store.cells = [7, 7, 7, 7, 7, 1, 2, 3] ∧
      split.state.target.device.store.cells = whole.state.target.device.store.cells ∧
      split.state.target.device.cursor = whole.state.target.device.cursor ∧
      split.reports.map Record.notification = [⟨.write, 5, 2⟩, ⟨.write, 7, 1⟩] ∧
      whole.reports.map Record.notification = [⟨.write, 5, 3⟩] := by
  intro config bus d l address pieces
  dsimp only
  have hd : Reachable config d := .of_moves rfl _
  have hb : l.bus.Ready := ⟨rfl, rfl⟩
  obtain ⟨done, told, -, -, hcells, hcursor, -⟩ :=
    split_writes_join (l := l) hd hb (by decide : address < config.size)
      (by decide : pieces ≠ []) (by decide) (by decide)
  refine ⟨hd, hb, ?_, ?_, ?_, ?_, ?_, ?_, ?_, ?_⟩
  · decide
  · decide
  · decide +kernel
  · decide +kernel
  · exact hcells
  · exact hcursor
  · decide +kernel
  · decide +kernel

end Controller

end SerialEeprom
