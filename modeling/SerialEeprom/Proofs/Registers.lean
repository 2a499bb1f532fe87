/-
# Control registers, from both sides

The host sets a register from inside, by a strict write; a client reads it from the bus, by a seek
and a read.  The two take different ways to one cell and keep to different bounds: the host cannot
set the register in the last cell, which the client can read.  They agree because every way to
change a cell is seen: from inside it is a call that works, and on the bus it is notified.

Being seen is what `Covers` says of a step, and a list of steps spares a cell if none of them covers
it (`Board.Spares`).  A cell that is spared keeps its byte (`Board.after_spares`), by induction over
the steps; within a step on the bus there is another induction, over the events of its procedure,
each of which accounts for what it changes.  Covering is decided by what can be learned from the
outside, results and notifications, and not by looking at the contents.

The client's side does not depend on any of this: at any time it reads the byte in the cell, as a
read at an address does on a plain EEPROM.  It is asked for that the device has room for an address,
which a register that was set is enough for, since a device of one byte has none to set.

Main statement: a register that was set reads as the value that it was set to, until a later write
covers its cell, whatever else happens meanwhile; and what a client reads is at any time what the
device holds (`registers_agree`).
-/
import SerialEeprom.Proofs.Failures

namespace SerialEeprom

variable {config : DeviceConfig}

/-! ## 1. Writes that cover a cell

All of it can be decided, step by step. -/

/-- A write to this cell is notified.  Whether the byte was another one before does not matter. -/
def Notification.Covers (n : Notification) (i : Nat) : Prop :=
  n.access = .write ∧ n.address.toNat ≤ i ∧ i < n.address.toNat + n.length.toNat

/-- The call of the owner writes to this cell if it works.  An image may be cut, and is taken to
write where it would have. -/
def OwnerCall.Covers : OwnerCall → Nat → Prop
  | read .., _ => False
  | readInto .., _ => False
  | write address bytes, i => address.toNat ≤ i ∧ i < address.toNat + bytes.length
  | load address image, i => address.toNat ≤ i ∧ i < address.toNat + image.length
  | snapshot, _ => False
  | set register _, i => i = register.address.toNat

/-- The step wrote to this cell, be it from inside or from the bus.  A call from inside that failed
wrote nowhere. -/
def Passed.Covers (p : Passed) : Step → Nat → Prop
  | .inside call, i => p.result.isOk ∧ call.Covers i
  | .far _ _, i => ∃ n ∈ p.notified, n.Covers i

instance (n : Notification) (i : Nat) : Decidable (n.Covers i) :=
  inferInstanceAs (Decidable (_ ∧ _))

instance : (call : OwnerCall) → (i : Nat) → Decidable (call.Covers i)
  | .read .., _ => inferInstanceAs (Decidable False)
  | .readInto .., _ => inferInstanceAs (Decidable False)
  | .write .., _ => inferInstanceAs (Decidable (_ ∧ _))
  | .load .., _ => inferInstanceAs (Decidable (_ ∧ _))
  | .snapshot, _ => inferInstanceAs (Decidable False)
  | .set .., _ => inferInstanceAs (Decidable (_ = _))

instance (p : Passed) : (s : Step) → (i : Nat) → Decidable (p.Covers s i)
  | .inside _, _ => inferInstanceAs (Decidable (_ ∧ _))
  | .far .., i => inferInstanceAs (Decidable (∃ n ∈ p.notified, n.Covers i))

/-- None of these steps writes to this cell.  Each is judged on the board that the ones before it
left. -/
def Board.Spares (b : Board) (i : Nat) : List Step → Prop
  | [] => True
  | s :: steps => ¬ (b.step s).Covers s i ∧ (b.step s).board.Spares i steps

instance Board.decidableSpares (i : Nat) : (steps : List Step) → (b : Board) →
    Decidable (b.Spares i steps)
  | [], _ => inferInstanceAs (Decidable True)
  | s :: steps, b =>
    have := Board.decidableSpares i steps (b.step s).board
    inferInstanceAs (Decidable (_ ∧ _))

theorem Device.Sound.handle_covers {β : Type} [Peripheral β] {d : Device} (h : d.Sound config)
    (bus : β) (event : BusEvent) {i : Nat}
    (hi : (d.handle bus event).device.store.cells[i]? ≠ d.store.cells[i]?) :
    ∃ n, (d.handle bus event).notification = some n ∧ n.Covers i := by
  obtain ⟨r, hr, hcovers⟩ := h.move_covers (m := .event bus event) rfl "" hi
  rw [Device.move_recorded] at hr
  obtain ⟨n, hn, rfl⟩ := List.mem_map.1 hr
  exact ⟨n, Option.mem_toList.1 hn, hcovers⟩

/-- **A cell that changes while a procedure is played is covered by a write that is notified.**  By
induction over the events; a procedure may end before all of them. -/
theorem Reachable.play_covers {α : Type} (p : Procedure α) {i : Nat} :
    ∀ {d : Device} {bus : SimulatedBus}, Reachable config d →
      (p.play [] d bus).device.store.cells[i]? ≠ d.store.cells[i]? →
        ∃ n ∈ (p.play [] d bus).told.map Prod.snd, n.Covers i := by
  induction p with
  | done result => exact fun _ hi => absurd rfl hi
  | log entry rest ih => exact ih
  | look rest ih => exact ih _
  | change g rest ih => exact ih
  | handle event rest ih =>
    intro d bus h hi
    let handled := d.handle bus event
    have htold := Played.told_after (rest.play [] handled.device handled.bus) event handled.toServed
    change ∃ n ∈ ((rest.play [] handled.device handled.bus).after event handled.toServed).told.map
      Prod.snd, n.Covers i
    rw [htold, List.map_append]
    -- The cell was changed by this event or by a later one.
    by_cases hfirst : handled.device.store.cells[i]? = d.store.cells[i]?
    · rw [← hfirst] at hi
      obtain ⟨n, hn, hcovers⟩ := ih (h.handled rfl) hi
      exact ⟨n, List.mem_append_right _ hn, hcovers⟩
    · obtain ⟨n, hn, hcovers⟩ := h.sound.handle_covers bus event hfirst
      refine ⟨n, List.mem_append_left _ ?_, hcovers⟩
      have hn : handled.notification = some n := hn
      rw [hn]
      exact List.mem_singleton.2 rfl

/-- A strict write changes no cell but those it writes to, and none if it fails. -/
theorem Device.write_covers {ω : Type} (d : Device) (address : UInt16) (bytes : List UInt8)
    {i : Nat}
    (hi : ((Device.write address bytes : Action Device ω EepromError Unit).run
      d).state.store.cells[i]? ≠ d.store.cells[i]?) :
    ((Device.write address bytes : Action Device ω EepromError Unit).run d).result = .ok () ∧
      address.toNat ≤ i ∧ i < address.toNat + bytes.length := by
  rcases hw : d.store.write address bytes with access | after
  · simp only [Action.run, Device.write, hw, ne_eq, not_true_eq_false] at hi
  · obtain ⟨-, rfl⟩ := Store.write_eq_ok_iff.1 hw
    simp only [Action.run, Device.write, hw, getElem?_overlay] at hi ⊢
    refine ⟨trivial, ?_⟩
    by_contra hn
    exact hi (if_neg fun hc => hn ⟨hc.1, hc.2.1⟩)

/-- A call of the owner changes no cell but those it writes to, and none if it fails. -/
theorem Board.inside_covers (b : Board) (call : OwnerCall) {i : Nat}
    (hi : (b.step (.inside call)).board.device.store.cells[i]? ≠ b.device.store.cells[i]?) :
    (b.step (.inside call)).Covers (.inside call) i := by
  simp only [Passed.Covers, Board.step] at hi ⊢
  cases call with
  | read address length =>
    rw [OwnerCall.run, Action.run_map] at hi
    exact absurd rfl hi
  | readInto address buffer =>
    rw [OwnerCall.run, Action.run_map] at hi
    exact absurd rfl hi
  | write address bytes =>
    rw [OwnerCall.run, Action.run_map] at hi ⊢
    obtain ⟨hresult, hrange⟩ := b.device.write_covers address bytes hi
    rw [hresult]
    exact ⟨rfl, hrange⟩
  | load address image =>
    rw [OwnerCall.run, Action.run_map] at hi ⊢
    refine ⟨rfl, ?_⟩
    by_contra hn
    exact hi ((getElem?_overlay ..).trans (if_neg fun hc => hn ⟨hc.1, hc.2.1⟩))
  | snapshot =>
    rw [OwnerCall.run, Action.run_map] at hi
    exact absurd rfl hi
  | set register value =>
    rw [OwnerCall.run, Action.run_map] at hi ⊢
    obtain ⟨hresult, hstate⟩ :=
      Action.run_log_after (ω := Empty) (Device.write register.address [value])
        (.registerSet register.name value) b.device
    rw [Register.set] at hi ⊢
    rw [hstate] at hi
    obtain ⟨hworked, hfirst, hlast⟩ := b.device.write_covers register.address [value] hi
    rw [hresult, hworked]
    refine ⟨rfl, Nat.le_antisymm ?_ hfirst⟩
    exact Nat.le_of_lt_succ hlast

theorem Board.step_covers {b : Board} (h : Reachable config b.device) (s : Step) {i : Nat}
    (hi : (b.step s).board.device.store.cells[i]? ≠ b.device.store.cells[i]?) :
    (b.step s).Covers s i := by
  cases s with
  | inside call => exact b.inside_covers call hi
  | far place act =>
    rw [b.step_far place act] at hi ⊢
    exact h.play_covers _ hi

/-- **A cell keeps its byte until a write covers it.**  Else the step that changed it would have
covered it. -/
theorem Board.after_spares : ∀ (steps : List Step) {b : Board} {i : Nat},
    Reachable config b.device → b.Spares i steps →
      (b.after steps).device.store.cells[i]? = b.device.store.cells[i]?
  | [], _, _, _, _ => rfl
  | s :: steps, b, i, h, hs =>
    have hstep : (b.step s).board.device.store.cells[i]? = b.device.store.cells[i]? :=
      Decidable.of_not_not (mt (Board.step_covers h s) hs.1)
    (Board.after_spares steps (Board.reachable_step h s) hs.2).trans hstep

/-! ## 2. The host

Setting a register is a strict write of one byte. -/

theorem Device.write_result_iff {ω : Type} {d : Device} (h : d.Sound config) (address : UInt16)
    (bytes : List UInt8) :
    ((Device.write address bytes : Action Device ω EepromError Unit).run d).result = .ok () ↔
      address.toNat + bytes.length < config.size.toNat := by
  rw [← h.size_eq]
  rcases hw : d.store.write address bytes with access | after
  · simp only [Action.run, Device.write, hw]
    constructor
    · intro hr; cases hr
    · intro hl
      have hok := Store.write_eq_ok_iff.2 ⟨hl, rfl⟩
      rw [hw] at hok
      cases hok
  · simp only [Action.run, Device.write, hw, true_iff]
    exact (Store.write_eq_ok_iff.1 hw).1

/-- A register can be set exactly if its cell is not the last one.  And not beyond the end, which is
the same condition. -/
theorem Register.set_result_iff {ω : Type} {d : Device} (h : d.Sound config) (r : Register)
    (value : UInt8) :
    ((r.set value : Action Device ω EepromError Unit).run d).result = .ok () ↔
      r.address.toNat + 1 < config.size.toNat := by
  rw [Register.set, (Action.run_log_after ..).1]
  exact Device.write_result_iff h r.address [value]

/-- What it holds then is the value.  It is the only byte that is written. -/
theorem Register.set_cell {ω : Type} {d : Device} (h : d.Sound config) (r : Register)
    (value : UInt8) (hr : r.address.toNat + 1 < config.size.toNat) :
    ((r.set value : Action Device ω EepromError Unit).run d).state.store.cells[r.address.toNat]?
      = some value := by
  have hlength := h.length_cells
  have hw : d.store.write r.address [value]
      = .ok { d.store with cells := overlay d.store.cells r.address.toNat [value] } :=
    Store.write_eq_ok_iff.2 ⟨h.size_eq ▸ hr, rfl⟩
  rw [Register.set, (Action.run_log_after ..).2]
  simp only [Action.run, Device.write, hw, getElem?_overlay, List.length_singleton]
  rw [if_pos (by omega), Nat.sub_self]
  rfl

/-! ## 3. The client

Asking for one is a seek and a read of one byte. -/

/-- Where there is room for an address, one byte read at a place is the byte there.  The read is
notified, and leaves the cursor behind that byte. -/
theorem Plain.read_byte {size : Nat} {p : Plain size} {address : UInt16} (hs : 2 ≤ size)
    (ha : address.toNat < size) :
    let sought := p.send (BigEndian.toBytes address)
    let answer := (sought.map fun _ => ()).andThen (sought.after.receive 1)
    ∃ byte, p.contents[address.toNat]? = some byte ∧ answer.value = [byte] ∧
      answer.after.contents = p.contents ∧ answer.after.cursor = address.toNat + 1 ∧
      answer.told = [⟨.read, address.toNat, 1⟩] := by
  intro sought answer
  have hi : address.toNat < p.contents.length := by
    rw [p.length_contents]
    exact ha
  have hbyte : (p.contents.drop address.toNat).take 1 = [p.contents[address.toNat]] := by
    rw [List.drop_eq_getElem_cons hi]
    rfl
  have hread := Plain.receive_at (p := p) hs ha 1
  rw [hbyte] at hread
  exact ⟨_, List.getElem?_eq_getElem hi, hread⟩

section

variable {η ω : Type} [Observer η ω] {l : Link η SimulatedBus}

/-- What a call does depends on how it runs only.  So a call may be rewritten before it is compared
with the plain EEPROM. -/
theorem Controller.Follows.congr {α : Type} {a a' : Controller.Call η ω α}
    {answer : Plain.Answer config.size.toNat α} (h : a.run l = a'.run l)
    (hf : Controller.Follows config a' l answer) : Controller.Follows config a l answer where
  result_eq := h ▸ hf.result_eq
  plain_eq := by
    rw [h]
    exact hf.plain_eq
  ready := h ▸ hf.ready
  tells := by
    obtain ⟨seen, hseen, hobserver, hreports⟩ := hf.tells
    exact ⟨seen, hseen, h ▸ hobserver, h ▸ hreports⟩

/-- **A client reads the byte in the cell of a register**, if the device has room for an
address. -/
theorem Register.get_follows (h : Reachable config l.target.device) (hb : l.bus.Ready)
    (hs : 2 ≤ config.size.toNat) {r : Register} (hr : r.address < config.size) :
    ∃ byte after, h.sound.plain.contents[r.address.toNat]? = some byte ∧
      after.contents = h.sound.plain.contents ∧ after.cursor = r.address.toNat + 1 ∧
      Controller.Follows config (r.get : Controller.Call η ω UInt8) l
        ⟨byte, after, [⟨.read, r.address.toNat, 1⟩]⟩ := by
  obtain ⟨byte, hbyte, hvalue, hcontents, hcursor, htold⟩ :=
    Plain.read_byte (p := h.sound.plain) hs (UInt16.lt_iff_toNat_lt.1 hr)
  let sought := h.sound.plain.send (BigEndian.toBytes r.address)
  let first := (sought.map fun _ => ()).andThen (sought.after.receive 1)
  have hread : Controller.Follows config (Controller.read r.address 1 : Controller.Call η ω _) l
      first := Controller.read_follows h hb r.address 1
  have hr : ¬ l.target.device.config.size ≤ r.address := by
    rw [h.sound.config_eq]
    exact UInt16.not_le.2 hr
  refine ⟨byte, first.after, hbyte, hcontents, hcursor, ?_⟩
  rw [← htold, ← List.append_nil (Plain.Answer.told _)]
  change Controller.Follows config r.get l (first.andThen ⟨byte, first.after, []⟩)
  apply Controller.Follows.congr
  · exact (Action.run_get_bind _ l).trans (congrArg (Action.run · l) (if_neg hr))
  · refine hread.bind fun {k} hk hc hplain => ?_
    rw [hvalue]
    exact .of_yields (.pure k byte) hk hplain hc rfl

end

/-! ## 4. Both of them -/

theorem Board.reachable_after : ∀ (steps : List Step) {b : Board}, Reachable config b.device →
    Reachable config (b.after steps).device
  | [], _, h => h
  | s :: steps, _, h => Board.reachable_after steps (Board.reachable_step h s)

theorem Board.set_result_iff {b : Board} (h : Reachable config b.device) (r : Register)
    (value : UInt8) :
    (b.step (.inside (.set r value))).result = .ok .done ↔
      r.address.toNat + 1 < config.size.toNat := by
  refine Iff.trans ?_ (r.set_result_iff (ω := Empty) h.sound value)
  simp only [Board.step, OwnerCall.run, Action.run_map]
  rcases ((r.set value : Action Device Empty EepromError Unit).run b.device).result with e | u
  · constructor
    · intro hr; cases hr
    · intro hr; cases hr
  · exact ⟨fun _ => rfl, fun _ => rfl⟩

/-- **Host and client agree on the control registers.**  A register is set exactly if its cell is
not the last one.  After any further steps a client reads the value, if none of them covers the
cell; and in any case it reads what the device holds there, which it leaves as it was.  A register
beyond the end is refused without asking. -/
theorem registers_agree {b : Board} (h : Reachable config b.device) (r : Register)
    (value : UInt8) :
    let passed := b.step (.inside (.set r value))
    (passed.result = .ok .done ↔ r.address.toNat + 1 < config.size.toNat) ∧
    (passed.result = .ok .done → ∀ steps : List Step,
      let now := passed.board.after steps
      ∀ {η ω : Type} [Observer η ω] (observer : Option η) (place : Nat), (now.buses place).Ready →
        let l := now.link place observer
        (passed.board.Spares r.address.toNat steps →
          ((r.get : Controller.Call η ω UInt8).run l).result = .ok value) ∧
        ∀ q : Register, q.address < config.size →
          let outcome := (q.get : Controller.Call η ω UInt8).run l
          let after := outcome.state.target.device
          (∃ byte, now.device.snapshot[q.address.toNat]? = some byte ∧
            outcome.result = .ok byte) ∧
          after.snapshot = now.device.snapshot ∧
          Controller.Tells observer outcome [⟨.read, q.address.toNat, 1⟩] ∧
          after.cursor.toNat = q.address.toNat + 1) ∧
    ∀ {η ω : Type} [Observer η ω] (l : Link η SimulatedBus) (q : Register),
      Reachable config l.target.device → config.size ≤ q.address →
        let outcome := (q.get : Controller.Call η ω UInt8).run l
        outcome.result = .error (.outOfBounds ⟨q.address, 1, config.size⟩) ∧
          outcome.state = l ∧ outcome.reports = [] := by
  intro passed
  have hset := b.set_result_iff h r value
  refine ⟨hset, ?_, ?_⟩
  · intro hworked steps now η ω _ observer place hb l
    have hr := hset.1 hworked
    have hpassed : Reachable config passed.board.device := Board.reachable_step h _
    have hnow : Reachable config l.target.device := Board.reachable_after steps hpassed
    -- On a device of one byte no register can be set, so there is room for an address.
    have hs : 2 ≤ config.size.toNat := by omega
    constructor
    · intro hspares
      have hcell : passed.board.device.store.cells[r.address.toNat]? = some value := by
        simp only [passed, Board.step, OwnerCall.run, Action.run_map]
        exact r.set_cell h.sound value hr
      have hkept := (Board.after_spares steps hpassed hspares).trans hcell
      have hra : r.address < config.size := UInt16.lt_iff_toNat_lt.2 (by omega)
      obtain ⟨byte, after, hbyte, -, -, hf⟩ :=
        Register.get_follows (η := η) (ω := ω) hnow hb hs hra
      rw [hf.result_eq]
      exact congrArg Except.ok (Option.some.inj (hbyte.symm.trans hkept))
    · intro q hq outcome after
      obtain ⟨byte, plain, hbyte, hcontents, hcursor, hf⟩ :=
        Register.get_follows (η := η) (ω := ω) hnow hb hs hq
      obtain ⟨hd, hplain⟩ := hf.plain_eq
      refine ⟨⟨byte, hbyte, hf.result_eq⟩, ?_, hf.tells, ?_⟩
      · exact (congrArg Plain.contents hplain).trans hcontents
      · exact (congrArg Plain.cursor hplain).trans hcursor
  · intro η ω _ l q hl hq outcome
    rw [← hl.sound.config_eq] at hq ⊢
    have hget : outcome = _ := q.get_of_le l hq
    rw [hget]
    exact ⟨rfl, rfl, rfl⟩

/-- A register is set while a controller has a write open; a fault and a seek later it is read. -/
theorem registers_agree_across_buses :
    let config : DeviceConfig := { size := 4 }
    let bus : SimulatedBus := { enabled := some config.bus, incoming := [0, 3, 9] }
    let b : Board :=
      ⟨(Device.fresh config).after [.load 0 [1, 2, 3, 4], .event bus .writeRequested], fun _ => bus⟩
    let r : Register := ⟨"mode", 2⟩
    let passed := b.step (.inside (.set r 7))
    let steps : List Step :=
      [.far 0 (.event (.writeDone 3)), .far 1 (.adjust (.failNext .write)),
        .far 1 (.call (.write 2 [5])), .inside (.write 3 [1]), .far 1 (.call (.seek 1))]
    let now := passed.board.after steps
    let l : Link Recorder SimulatedBus := now.link 0 (some ⟨"h", .plain⟩)
    Reachable config b.device ∧ passed.result = .ok .done ∧
      passed.board.Spares r.address.toNat steps ∧ now.device.cursor = 1 ∧
      ((r.get : Controller.Call Recorder Record UInt8).run l).result = .ok 7 := by
  intro config bus b r passed steps now l
  have hd : Reachable config b.device := .of_moves rfl _
  have hspares : passed.board.Spares r.address.toNat steps := by decide +kernel
  have hcursor : now.device.cursor = 1 := by decide +kernel
  obtain ⟨hset, hget, -⟩ := registers_agree hd r 7
  have hworked : passed.result = .ok .done := hset.2 (by decide)
  obtain ⟨hread, -⟩ := hget hworked steps (some ⟨"h", .plain⟩ : Option Recorder) 0
    ⟨by decide +kernel, by decide +kernel⟩
  exact ⟨hd, hworked, hspares, hcursor, hread hspares⟩

end SerialEeprom
