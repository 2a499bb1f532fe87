/-
# A call that fails was never made

A call of a controller fails if the bus is down or a fault is pending, and for no other reason.
The target may have seen a request by then, and the fault after it; so its buffer was filled anew,
whatever was open there is closed, and the bus has lost the bytes of the transaction before.  None
of this can be told by those who only make calls: what they learn from a device depends on its
contents, its cursor and the lines of its buses (`Board.Equivalent`), and a failed call changes
nothing of these but the fault that it met.

The relation is kept by every step that is a call, on either side (`Board.Equivalent.step`).  For
calls of the owner that is because they look at contents only.  For calls on a bus it is because a
call that is answered replies what a plain EEPROM would, and a plain EEPROM has only contents and a
cursor; and a call that is not answered fails with what is in its way, which is in the line.  So the
comparison never has to follow what a call does to the buffer or to a staged transaction.

An event that a peripheral reports by itself is not a call, and would show the difference: the end
of a transaction that the failed call has closed is no longer served.  Such events are excluded from
the steps that follow (`Step.isCall`), and from nothing else.

Main statement: when a call fails, and that from then on everything is as if it had not been made
and the fault it spent had never been there (`failed_call_leaves_no_trace`).
-/
import SerialEeprom.Proofs.Addressed
import SerialEeprom.Proofs.Line

namespace SerialEeprom

/-! ## 1. A call that is answered -/

/-- Numbers are told apart by their values.  So what is told in numbers of sixteen bits may be
compared in those without a width. -/
theorem Notification.completion_injective : Function.Injective Notification.completion := by
  rintro ⟨access, address, length⟩ ⟨access', address', length'⟩ h
  simp only [completion, Plain.Completion.mk.injEq, UInt16.toNat_inj] at h
  obtain ⟨rfl, rfl, rfl⟩ := h
  rfl

/-- The answer of a plain EEPROM to a call.  Calls at an address are made of the two transactions
here as there. -/
def Plain.reply {size : Nat} (p : Plain size) : FarCall → Plain.Answer size Response
  | .send bytes => (p.send bytes).map .count
  | .receive length => (p.receive length).map .bytes
  | .seek address => (p.send (BigEndian.toBytes address)).map fun _ => .done
  | .write address bytes => (p.send (BigEndian.toBytes address ++ bytes)).map fun _ => .done
  | .read address length =>
    (((p.send (BigEndian.toBytes address)).map fun _ => ()).andThen
      ((p.send (BigEndian.toBytes address)).after.receive length)).map .bytes

theorem FarCall.follows {config : DeviceConfig} {η ω : Type} [Observer η ω]
    {l : Link η SimulatedBus} (h : Reachable config l.target.device) (hb : l.bus.Ready)
    (c : FarCall) :
    Controller.Follows config (c.run : Controller.Call η ω Response) l (h.sound.plain.reply c) := by
  cases c with
  | send bytes =>
    rw [run, ← bind_pure_comp]
    exact (Controller.send_follows h hb bytes).map Response.count
  | receive length =>
    rw [run, ← bind_pure_comp]
    exact (Controller.receive_follows h hb length).map Response.bytes
  | seek address =>
    rw [run, ← bind_pure_comp]
    exact (Controller.seek_follows h hb address).map fun _ => Response.done
  | write address bytes =>
    rw [run, ← bind_pure_comp]
    exact (Controller.write_follows h hb address bytes).map fun _ => Response.done
  | read address length =>
    rw [run, ← bind_pure_comp]
    exact (Controller.read_follows h hb address length).map Response.bytes

/-- A register beyond the end is not asked for.  There is one message, and the bus sees nothing. -/
theorem Register.get_of_le {η ω : Type} [Observer η ω] (r : Register) (l : Link η SimulatedBus)
    (hr : l.target.device.config.size ≤ r.address) :
    let size := l.target.device.config.size
    (r.get : Controller.Call η ω UInt8).run l
      = ⟨.error (.outOfBounds ⟨r.address, 1, size⟩), l,
          [.log (.registerMissing r.name r.address size)]⟩ := by
  refine (Action.run_get_bind _ l).trans ?_
  simp only [if_pos hr]
  rfl

namespace Board

variable {config : DeviceConfig} {b : Board} {place : Nat}

/-- **On a bus that answers, a step is what the plain EEPROM replies.**  What the step leaves is
again a device in reach, with the plain EEPROM that was left. -/
theorem step_call (h : Reachable config b.device) (hb : (b.buses place).Ready) (c : FarCall) :
    let passed := b.step (.far place (.call c))
    let reply := h.sound.plain.reply c
    passed.result = .ok reply.value ∧ passed.notified.map Notification.completion = reply.told ∧
      ∃ hd : Reachable config passed.board.device, hd.sound.plain = reply.after := by
  intro passed reply
  let l := b.link place (some listener)
  have hf : Controller.Follows config (c.run : Controller.Call Recorder Record Response) l reply :=
    c.follows h hb
  obtain ⟨seen, hseen, -, hreports⟩ := hf.tells
  have hnotified : passed.notified = seen.map Prod.snd := by
    change ((c.run.run l).reports).map Record.notification = _
    rw [hreports]
    exact hear_listener seen
  refine ⟨hf.result_eq, ?_, hf.plain_eq⟩
  rw [hnotified, List.map_map]
  exact hseen

/-! ## 2. A call that is not

It fails before anything is moved, so the device is changed only in what calls do not see. -/

/-- A step that fails leaves the contents and the cursor, and nobody hears of it.  What is staged is
not among what it leaves. -/
theorem step_failed (b : Board) (place : Nat) (c : FarCall) {fault : BusFault}
    (h : (b.buses place).line.obstacle = some fault) :
    let passed := b.step (.far place (.call c))
    passed.result = .error (.peripheral fault) ∧ passed.notified = [] ∧
      passed.board.device.store = b.device.store ∧
      passed.board.device.cursor = b.device.cursor := by
  intro passed
  have hp : passed = _ := b.step_far place (.call c)
  have hfailed := c.addressed.failed b.device (b.buses place) fault h
  rw [hp]
  exact ⟨hfailed.result_eq, congrArg _ hfailed.told_eq, hfailed.store_eq, hfailed.cursor_eq⟩

/-- Either way, a pending fault is spent, and the lines of the other buses stay.  A call that is
answered had no fault to spend. -/
theorem step_line (b : Board) (place : Nat) (c : FarCall) (other : Nat) :
    ((b.step (.far place (.call c))).board.buses other).line
      = if other = place then (b.buses place).line.spent else (b.buses other).line := by
  rw [b.step_far place (.call c)]
  by_cases hp : other = place
  · subst hp
    rw [if_pos rfl]
    change ((Function.update b.buses other _) other).line = _
    rw [Function.update_self]
    rcases hb : (b.buses other).line.obstacle with _ | fault
    · rw [Line.spent_of_free hb]
      exact (c.addressed.smooth [] b.device (b.buses other) hb).2
    · exact (c.addressed.failed b.device (b.buses other) fault hb).line_eq
  · rw [if_neg hp]
    exact congrArg SimulatedBus.line (Function.update_of_ne hp ..)

/-- What a client makes of the bytes it reads for a register. -/
def found (size : UInt16) (r : Register) : Response → Except EepromError Response
  | .bytes (value :: _) => .ok (.bytes [value])
  | _ => .error (.outOfBounds ⟨r.address, 1, size⟩)

/-- To ask for a register within the device is to read a byte there.  Only the result is another,
which is the byte itself. -/
theorem step_get (b : Board) (place : Nat) {r : Register} (hr : r.address < b.device.config.size) :
    let passed := b.step (.far place (.call (.read r.address 1)))
    b.step (.far place (.get r))
      = { passed with result := passed.result.bind (found b.device.config.size r) } := by
  intro passed
  have hp : passed = _ := b.step_far place (.call (.read r.address 1))
  have hr : ¬ b.device.config.size ≤ r.address := UInt16.not_le.2 hr
  rw [b.step_far place (.get r), hp]
  simp only [FarAct.procedure, FarCall.procedure, Procedure.play_map, Procedure.play_get hr]
  rcases ((Procedure.read r.address 1).play [] b.device (b.buses place)).result with e | bytes
  · rfl
  · rcases bytes with _ | ⟨value, rest⟩
    · rfl
    · rfl

theorem step_get_missing (b : Board) (place : Nat) {r : Register}
    (hr : b.device.config.size ≤ r.address) :
    b.step (.far place (.get r))
      = ⟨.error (.outOfBounds ⟨r.address, 1, b.device.config.size⟩), [], b⟩ := by
  let l := b.link place (some listener)
  have hget : ((FarAct.get r).run : Controller.Call Recorder Record Response).run l
      = ⟨.error (.outOfBounds ⟨r.address, 1, b.device.config.size⟩), l,
          [.log (.registerMissing r.name r.address b.device.config.size)]⟩ := by
    rw [FarAct.run, Action.run_map, r.get_of_le l hr]
    rfl
  have hbuses : Function.update b.buses place l.bus = b.buses := Function.update_eq_self ..
  simp only [step, hget, l, hbuses]
  rfl

end Board

/-! ## 3. What those who make calls can tell

The relation, that each kind of step keeps it, and that whoever watches sees the same. -/

/-- The step is a call, or something done to a bus, and not an event that a peripheral reports by
itself. -/
def Step.isCall : Step → Bool
  | .far _ (.event _) => false
  | _ => true

/-- To those who make calls the two are the same.  Buffers, staged transactions and phases are not
mentioned, nor what is left on a bus. -/
structure Board.Equivalent (config : DeviceConfig) (b c : Board) : Prop where
  left : Reachable config b.device
  right : Reachable config c.device
  store_eq : b.device.store = c.device.store
  cursor_eq : b.device.cursor = c.device.cursor
  line_eq : ∀ place, (b.buses place).line = (c.buses place).line

/-- They are told the same, and what is left is the same to them. -/
structure Passed.Equivalent (config : DeviceConfig) (p q : Passed) : Prop where
  result_eq : p.result = q.result
  notified_eq : p.notified = q.notified
  board : p.board.Equivalent config q.board

theorem Adjustment.apply_line {bus other : SimulatedBus} (h : bus.line = other.line)
    (adjustment : Adjustment) : (adjustment.apply bus).line = (adjustment.apply other).line := by
  simp only [SimulatedBus.line, Line.mk.injEq] at h
  obtain ⟨henabled, hfail, hfault⟩ := h
  cases adjustment with
  | enable config =>
    simp only [apply, SimulatedBus.enable, hfail]
    split
    · simp only [SimulatedBus.line, henabled, hfail, hfault]
    · split
      · simp only [SimulatedBus.line, henabled, hfail, hfault]
      · simp only [SimulatedBus.line, hfault]
  | failEnable fail => simp only [apply, SimulatedBus.line, henabled, hfault]
  | failNext fault => simp only [apply, SimulatedBus.line, henabled, hfail]
  | incoming bytes => simp only [apply, SimulatedBus.line, henabled, hfail, hfault]

namespace Board.Equivalent

variable {config : DeviceConfig} {b c : Board}

theorem plain_eq (h : b.Equivalent config c) : h.left.sound.plain = h.right.sound.plain :=
  Plain.ext (congrArg Store.cells h.store_eq) (congrArg UInt16.toNat h.cursor_eq)

/-- A device is known to a controller by what it is as a plain EEPROM.  So two that follow the same
one are the same to calls. -/
theorem of_plain (hb : Reachable config b.device) (hc : Reachable config c.device)
    (hplain : hb.sound.plain = hc.sound.plain)
    (hline : ∀ place, (b.buses place).line = (c.buses place).line) : b.Equivalent config c where
  left := hb
  right := hc
  store_eq := by
    have hsize : b.device.store.size = c.device.store.size :=
      hb.sound.size_eq.trans hc.sound.size_eq.symm
    have hcells : b.device.store.cells = c.device.store.cells := congrArg Plain.contents hplain
    rcases hs : b.device.store with ⟨size, cells⟩
    rcases ht : c.device.store with ⟨size', cells'⟩
    rw [hs, ht] at hsize hcells
    exact congrArg₂ Store.mk hsize hcells
  cursor_eq := UInt16.toNat_inj.1 (congrArg Plain.cursor hplain)
  line_eq := hline

theorem inside (h : b.Equivalent config c) (call : OwnerCall) :
    (b.step (.inside call)).Equivalent config (c.step (.inside call)) where
  result_eq := call.contentsOnly.result_eq b.device c.device h.store_eq
  notified_eq := rfl
  board := by
    have hcontents := call.contentsOnly (ω := Empty)
    have hb := hcontents.state_eq b.device c.device h.store_eq
    have hc := hcontents.state_eq c.device c.device rfl
    refine ⟨h.left.serve call, h.right.serve call, ?_, ?_, h.line_eq⟩
    · exact (congrArg Device.store hb :)
    · exact (congrArg Device.cursor hb).trans (h.cursor_eq.trans (congrArg Device.cursor hc).symm)

theorem call (h : b.Equivalent config c) (place : Nat) (call : FarCall) :
    (b.step (.far place (.call call))).Equivalent config (c.step (.far place (.call call))) := by
  have hline : ∀ other, ((b.step (.far place (.call call))).board.buses other).line
      = ((c.step (.far place (.call call))).board.buses other).line := by
    intro other
    rw [Board.step_line, Board.step_line, h.line_eq place, h.line_eq other]
  have hc := h.line_eq place
  -- Either both answer, as one plain EEPROM would, or both fail in the same way.
  rcases hb : (b.buses place).line.obstacle with _ | fault
  · obtain ⟨hresult, hnotified, hd, hafter⟩ :=
      Board.step_call h.left (SimulatedBus.ready_iff.2 hb) call
    obtain ⟨hresult', hnotified', hd', hafter'⟩ :=
      Board.step_call h.right (SimulatedBus.ready_iff.2 (hc ▸ hb)) call
    rw [h.plain_eq] at hresult hnotified hafter
    refine ⟨hresult.trans hresult'.symm, ?_, of_plain hd hd' (hafter.trans hafter'.symm) hline⟩
    exact (List.map_inj_right fun _ _ hn => Notification.completion_injective hn).1
      (hnotified.trans hnotified'.symm)
  · obtain ⟨hresult, hnotified, hstore, hcursor⟩ := b.step_failed place call hb
    obtain ⟨hresult', hnotified', hstore', hcursor'⟩ := c.step_failed place call (hc ▸ hb)
    exact ⟨hresult.trans hresult'.symm, hnotified.trans hnotified'.symm,
      Board.reachable_step h.left _, Board.reachable_step h.right _,
      hstore.trans (h.store_eq.trans hstore'.symm),
      hcursor.trans (h.cursor_eq.trans hcursor'.symm), hline⟩

/-- What is known of a register is known from the byte that is read for it.  The size is the same on
both sides, so it is there on both or on neither. -/
theorem get (h : b.Equivalent config c) (place : Nat) (r : Register) :
    (b.step (.far place (.get r))).Equivalent config (c.step (.far place (.get r))) := by
  have hsize : b.device.config.size = c.device.config.size := by
    rw [h.left.sound.config_eq, h.right.sound.config_eq]
  by_cases hr : r.address < b.device.config.size
  · obtain ⟨hresult, hnotified, hboard⟩ := h.call place (.read r.address 1)
    rw [b.step_get place hr, c.step_get place (hsize ▸ hr)]
    exact ⟨by rw [hresult, hsize], hnotified, hboard⟩
  · have hr : b.device.config.size ≤ r.address := UInt16.not_lt.1 hr
    rw [b.step_get_missing place hr, c.step_get_missing place (hsize ▸ hr), hsize]
    exact ⟨rfl, rfl, h⟩

theorem adjust (h : b.Equivalent config c) (place : Nat) (adjustment : Adjustment) :
    (b.step (.far place (.adjust adjustment))).Equivalent config
      (c.step (.far place (.adjust adjustment))) where
  result_eq := rfl
  notified_eq := rfl
  board := by
    have hplace := adjustment.apply_line (h.line_eq place)
    have hline := update_alike (R := fun bus other => bus.line = other.line) h.line_eq place hplace
    exact ⟨h.left, h.right, h.store_eq, h.cursor_eq, hline⟩

theorem step (h : b.Equivalent config c) {s : Step} (hs : s.isCall = true) :
    (b.step s).Equivalent config (c.step s) := by
  cases s with
  | inside call => exact h.inside call
  | far place act =>
    cases act with
    | adjust adjustment => exact h.adjust place adjustment
    | event e => cases hs
    | call call => exact h.call place call
    | get r => exact h.get place r

end Board.Equivalent

/-- What is learned from a step: its result, the accesses that are notified, and the contents and
the cursor afterwards. -/
structure Sighting where
  result : Except EepromError Response
  notified : List Notification
  contents : List UInt8
  cursor : UInt16

/-- What is learned from one step after the other.  Each step is watched on the board that the ones
before it left. -/
def Board.watch (b : Board) : List Step → List Sighting
  | [] => []
  | s :: steps =>
    let passed := b.step s
    let after := passed.board.device
    ⟨passed.result, passed.notified, after.snapshot, after.cursor⟩ :: passed.board.watch steps

/-- **Nobody who makes calls only can tell the two apart.**  By induction over the calls, as each
keeps the relation and shows the same on both sides. -/
theorem Board.Equivalent.watch_eq {config : DeviceConfig} : ∀ (steps : List Step) {b c : Board},
    b.Equivalent config c → (∀ s ∈ steps, s.isCall = true) → b.watch steps = c.watch steps
  | [], _, _, _, _ => rfl
  | s :: steps, b, c, h, hs => by
    obtain ⟨hresult, hnotified, hboard⟩ := h.step (hs s List.mem_cons_self)
    have hrest := hboard.watch_eq steps fun t ht => hs t (List.mem_cons_of_mem _ ht)
    simp only [Board.watch, hresult, hnotified, hrest, Device.snapshot, hboard.store_eq,
      hboard.cursor_eq]

/-! ## 4. The failed call -/

section

variable {config : DeviceConfig} {η ω : Type} [Observer η ω] {l : Link η SimulatedBus}

/-- A call is what its procedure plays, and its observer hears what is told there.  This is for
observers of any kind, while boards have their own. -/
theorem FarCall.run_eq (c : FarCall) (l : Link η SimulatedBus) :
    let played := c.procedure.play [] l.target.device l.bus
    let heard := Observer.hear l.target.observer played.told
    let outcome := (c.run : Controller.Call η ω Response).run l
    outcome.result = played.result ∧ outcome.state = ⟨⟨played.device, heard.1⟩, played.bus⟩ ∧
      outcome.reports = heard.2 := by
  rw [← c.call_procedure]
  exact c.procedure.run_call l

/-- A call fails exactly with what is in its way.  By `Procedure.Addressed`, as a call is its
procedure played through. -/
theorem FarCall.result_eq_error_iff (c : FarCall) (l : Link η SimulatedBus) {e : EepromError} :
    ((c.run : Controller.Call η ω Response).run l).result = .error e ↔
      ∃ fault, l.bus.line.obstacle = some fault ∧ e = .peripheral fault := by
  rw [(c.run_eq l).1]
  exact c.addressed.result_eq_error_iff

/-- A read at an address does not fail once its seek has worked.  No fault can come up between the
two halves, since nobody else is on the bus. -/
theorem Controller.read_of_seek {address : UInt16}
    (hs : ((seek address : Call η ω Unit).run l).result = .ok ()) (length : Nat) :
    ∃ bytes, ((read address length : Call η ω (List UInt8)).run l).result = .ok bytes := by
  rw [← Procedure.call_seek, ((Procedure.seek address).run_call l).1] at hs
  rw [← Procedure.call_read, ((Procedure.read address length).run_call l).1]
  exact (Procedure.seek_addressed address).ends_well (Procedure.read_addressed address length) hs

/-- A call that fails leaves what its procedure leaves, and nobody hears of it.  What it did before
it failed completed nothing. -/
theorem FarCall.run_failed (c : FarCall) {fault : BusFault}
    (hb : l.bus.line.obstacle = some fault) :
    let played := c.procedure.play [] l.target.device l.bus
    let outcome := (c.run : Controller.Call η ω Response).run l
    played.Failed l.target.device l.bus fault ∧ outcome.state.target.device = played.device ∧
      outcome.state.bus = played.bus ∧ Controller.Tells l.target.observer outcome [] := by
  intro played outcome
  have hfailed : played.Failed l.target.device l.bus fault :=
    c.addressed.failed l.target.device l.bus fault hb
  obtain ⟨-, hstate, hreports⟩ := c.run_eq (η := η) (ω := ω) l
  rw [hfailed.told_eq] at hstate hreports
  refine ⟨hfailed, ?_, congrArg Link.bus hstate, [], rfl, ?_, hreports⟩
  · exact (congrArg (fun k : Link η SimulatedBus => k.target.device) hstate :)
  · exact (congrArg (fun k : Link η SimulatedBus => k.target.observer) hstate :)

/-- To those who make calls, what it leaves is what there was without the fault it met.  On a bus
that is down no fault is met, and nothing is taken away. -/
theorem FarCall.failed_equivalent (h : Reachable config l.target.device) (c : FarCall)
    {fault : BusFault} (hb : l.bus.line.obstacle = some fault) (buses : Nat → SimulatedBus)
    (place : Nat) :
    let after := ((c.run : Controller.Call η ω Response).run l).state
    Board.Equivalent config ⟨after.target.device, Function.update buses place after.bus⟩
      ⟨l.target.device, Function.update buses place { l.bus with fault := after.bus.fault }⟩ := by
  intro after
  let cleared : SimulatedBus := { l.bus with fault := after.bus.fault }
  obtain ⟨hfailed, hdevice, hbus, -⟩ := c.run_failed (η := η) (ω := ω) hb
  have hline : after.bus.line = l.bus.line.spent := hbus ▸ hfailed.line_eq
  have hcleared : after.bus.line = cleared.line := by
    have hfault : after.bus.fault = l.bus.line.spent.fault := congrArg Line.fault hline
    rw [hline, Line.spent_eq, ← hfault]
    rfl
  exact ⟨hdevice ▸ h.play c.procedure, h, hdevice ▸ hfailed.store_eq, hdevice ▸ hfailed.cursor_eq,
    Board.update_alike (R := fun bus other => bus.line = other.line)
      (fun place => Eq.refl (buses place).line) place hcleared⟩

/-- **A call that fails was never made.**  It fails for one of two reasons and says which; it leaves
contents and cursor, and tells nobody.  Whatever calls come after it, on any bus, they are answered
as if it had not been made, with the fault it met gone. -/
theorem failed_call_leaves_no_trace (h : Reachable config l.target.device) (c : FarCall) :
    let outcome := (c.run : Controller.Call η ω Response).run l
    let after := outcome.state
    (∀ e, outcome.result = .error e ↔
      (l.bus.enabled = none ∧ e = .peripheral .general) ∨
        (l.bus.enabled.isSome ∧ ∃ fault, l.bus.fault = some fault ∧ e = .peripheral fault)) ∧
    (∀ (address : UInt16) (length : Nat),
      ((Controller.seek address : Controller.Call η ω Unit).run l).result = .ok () →
        ∃ bytes, ((Controller.read address length : Controller.Call η ω _).run l).result
          = .ok bytes) ∧
    ∀ e, outcome.result = .error e →
      after.target.device.snapshot = l.target.device.snapshot ∧
      after.target.device.cursor = l.target.device.cursor ∧
      Controller.Tells l.target.observer outcome [] ∧
      (l.bus.enabled = none →
        after.target.device = l.target.device ∧ after.bus.fault = l.bus.fault) ∧
      (l.bus.enabled.isSome → after.target.device.staged = none ∧ after.bus.fault = none) ∧
      ∀ (buses : Nat → SimulatedBus) (place : Nat) (steps : List Step),
        (∀ s ∈ steps, s.isCall = true) →
          let failed : Board := ⟨after.target.device, Function.update buses place after.bus⟩
          let untouched : Board :=
            ⟨l.target.device,
              Function.update buses place { l.bus with fault := after.bus.fault }⟩
          failed.watch steps = untouched.watch steps := by
  intro outcome after
  refine ⟨fun e => ?_, fun address length hs => Controller.read_of_seek hs length, fun e he => ?_⟩
  · -- The two reasons are the two kinds of obstacle that a line can have.
    refine (c.result_eq_error_iff l).trans ?_
    simp only [Line.obstacle_eq_some_iff]
    constructor
    · rintro ⟨fault, ⟨hdown, rfl⟩ | ⟨hup, hfault⟩, rfl⟩
      · exact .inl ⟨hdown, rfl⟩
      · exact .inr ⟨hup, fault, hfault, rfl⟩
    · rintro (⟨hdown, rfl⟩ | ⟨hup, fault, hfault, rfl⟩)
      · exact ⟨.general, .inl ⟨hdown, rfl⟩, rfl⟩
      · exact ⟨fault, .inr ⟨hup, hfault⟩, rfl⟩
  · obtain ⟨fault, hb, -⟩ := (c.result_eq_error_iff l).1 he
    obtain ⟨hfailed, hdevice, hbus, htells⟩ := c.run_failed (η := η) (ω := ω) hb
    have hfault : after.bus.fault = l.bus.line.spent.fault :=
      (congrArg SimulatedBus.fault hbus).trans (congrArg Line.fault hfailed.line_eq)
    have hstore : after.target.device.store = l.target.device.store := hdevice ▸ hfailed.store_eq
    have hcursor : after.target.device.cursor = l.target.device.cursor :=
      hdevice ▸ hfailed.cursor_eq
    refine ⟨congrArg Store.cells hstore, hcursor, htells, fun hdown => ⟨?_, ?_⟩,
      fun hup => ⟨?_, ?_⟩, fun buses place steps hcalls => ?_⟩
    · exact hdevice.trans (hfailed.device_eq hdown)
    · rw [hfault, Line.spent_of_down hdown]
      rfl
    · exact hdevice ▸ hfailed.staged_eq hup
    · rw [hfault, Line.spent_of_up hup]
    · exact Board.Equivalent.watch_eq steps (c.failed_equivalent h hb buses place) hcalls

end

/-- A read is aborted by a fault while a raw write is open, and is made again afterwards.  The
second attempt gives what the first would have given. -/
theorem failed_read_leaves_no_trace :
    let config : DeviceConfig := { size := 4 }
    let bus : SimulatedBus :=
      { enabled := some config.bus, incoming := [0, 2, 9], capacity := some 4, offered := [7],
        fault := some .read }
    let d := (Device.fresh config).after [.load 0 [1, 2, 3, 4], .event bus .writeRequested]
    let l : Link Recorder SimulatedBus := ⟨⟨d, some ⟨"h", .plain⟩⟩, bus⟩
    let outcome := ((FarCall.read 1 2).run : Controller.Call Recorder Record Response).run l
    let steps : List Step := [.far 0 (.call (.receive 2)), .far 0 (.call (.read 1 2))]
    let failed : Board :=
      ⟨outcome.state.target.device, Function.update (fun _ => bus) 0 outcome.state.bus⟩
    let untouched : Board := ⟨d, Function.update (fun _ => bus) 0 { bus with fault := none }⟩
    Reachable config d ∧ d.staged = some .receive ∧ outcome.result = .error (.peripheral .read) ∧
      outcome.state.target.device.staged = none ∧ failed.watch steps = untouched.watch steps ∧
      (untouched.watch steps).map Sighting.notified = [[⟨.read, 0, 2⟩], [⟨.read, 1, 2⟩]] := by
  intro config bus d l outcome steps failed untouched
  have hd : Reachable config d := .of_moves rfl _
  obtain ⟨hfails, -, hafter⟩ := failed_call_leaves_no_trace (l := l) hd (.read 1 2)
  have hresult : outcome.result = .error (.peripheral .read) :=
    (hfails _).2 (.inr ⟨rfl, .read, rfl, rfl⟩)
  obtain ⟨-, -, -, -, hup, hlater⟩ := hafter _ hresult
  obtain ⟨hstaged, hfault⟩ := hup rfl
  have hwatch := hlater (fun _ => bus) 0 steps (by decide)
  rw [hfault] at hwatch
  exact ⟨hd, rfl, hresult, hstaged, hwatch, by decide +kernel⟩

end SerialEeprom
