/-
# What happens on a bus, event by event

A call of a controller is a function of the link it runs on, so nothing can be put between its
events.  A procedure is the same call as data: each event stands by itself, and whoever plays the
procedure may do something else before it.

Procedures have five constructors, after what a controller can do: end, note something in the log,
look at its bus, change it, and let the device handle an event.  Only the last concerns the device,
so it is the only place where it matters what the owner did meanwhile; `Procedure.play` takes a list
of calls for each such place, and makes them before the event.

Two things have to be shown for procedures to be of use, and they are independent of each other.

* They describe what controllers do: turned into an action (`Procedure.call`), the procedure of each
  call is that call (`FarAct.call_procedure`).  This is shown call by call, along the definitions.
* Playing one is running that action, if the owner does nothing meanwhile (`Procedure.run_call`).
  This is shown once for all procedures, by induction, with the observers told on the way.

From then on calls are replaced by their procedures, of which whatever is to be proved is proved by
induction on their structure or from how they are put together (`play_bind`).

Main statements: the procedures describe what controllers do (`FarAct.call_procedure`), and playing
one without interruption leaves what the call leaves and tells every observer the same
(`Procedure.run_call`).
-/
import SerialEeprom.Proofs.Board

namespace SerialEeprom

/-- What a controller does, up to its result.  It goes on as its bus says, and knows nothing of the
device. -/
inductive Procedure (α : Type) where
  | done (result : Except EepromError α)
  | log (entry : LogEntry) (rest : Procedure α)
  /-- Go on as the state of the bus says. -/
  | look (rest : SimulatedBus → Procedure α)
  | change (f : SimulatedBus → SimulatedBus) (rest : Procedure α)
  /-- Let the device handle an event. -/
  | handle (event : BusEvent) (rest : Procedure α)

namespace Procedure

variable {η ω α γ : Type}

/-- One procedure after the other.  An error ends both, as it does with actions. -/
def bind : Procedure α → (α → Procedure γ) → Procedure γ
  | done (.ok x), f => f x
  | done (.error e), _ => done (.error e)
  | log entry rest, f => log entry (rest.bind f)
  | look rest, f => look fun bus => (rest bus).bind f
  | change g rest, f => change g (rest.bind f)
  | handle event rest, f => handle event (rest.bind f)

instance : Monad Procedure where
  pure x := done (.ok x)
  bind := bind

/-! ## 1. The procedures of a controller

Written like the calls, with the same steps in the same order. -/

/-- Note an event and let the device handle it.  The note is for the log, and comes first. -/
def signal (event : BusEvent) : Procedure Unit :=
  log (.busEvent event) (handle event (done (.ok ())))

/-- Address the target with a request.  Where that fails, the procedure ends here, and so does every
call. -/
def address (request : BusEvent) : Procedure Unit :=
  look fun bus =>
    if bus.enabled.isNone then done (.error (.peripheral .general))
    else
      match bus.fault with
      | none => done (.ok ())
      | some fault =>
        change (fun bus => { bus with fault := none }) do
          signal request
          signal (.fault fault)
          done (.error (.peripheral fault))

/-- One write transaction.  The room is looked at after the request, when the device has made it. -/
def send (bytes : List UInt8) : Procedure Nat :=
  change (fun bus => { bus with incoming := bytes, capacity := none }) do
    address .writeRequested
    signal .writeRequested
    look fun bus => do
      let count := Controller.accepted bus bytes.length
      if count < bytes.length then log (.refusedBytes (bytes.length - count)) (done (.ok ()))
      signal (.writeDone count)
      pure count

/-- One read transaction.  What is offered is looked at after the request, and put away before the
completion. -/
def receive (length : Nat) : Procedure (List UInt8) :=
  change (fun bus => { bus with offered := [] }) do
    address .readRequested
    signal .readRequested
    look fun bus => do
      let bytes := bus.offered.take length
      change (fun bus => { bus with offered := [] }) do
        signal (.readDone bytes.length)
        pure bytes

/-- Move the cursor of the target. -/
def seek (target : UInt16) : Procedure Unit := do
  let _ ← send (BigEndian.toBytes target)

/-- Read bytes at an address.  There is a gap between the two transactions, as there is between any
two events. -/
def read (target : UInt16) (length : Nat) : Procedure (List UInt8) := do
  seek target
  receive length

/-- Ask for a control register of a device of this size. -/
def get (size : UInt16) (r : Register) : Procedure UInt8 :=
  if size ≤ r.address then
    log (.registerMissing r.name r.address size)
      (done (.error (.outOfBounds ⟨r.address, 1, size⟩)))
  else do
    match ← read r.address 1 with
    | value :: _ => pure value
    | [] => done (.error (.outOfBounds ⟨r.address, 1, size⟩))

end Procedure

/-- The procedure of a call. -/
def FarCall.procedure : FarCall → Procedure Response
  | send bytes => do
    let count ← Procedure.send bytes
    pure (.count count)
  | receive length => do
    let bytes ← Procedure.receive length
    pure (.bytes bytes)
  | seek address => do
    Procedure.seek address
    pure .done
  | write address bytes => do
    let _ ← Procedure.send (BigEndian.toBytes address ++ bytes)
    pure .done
  | read address length => do
    let bytes ← Procedure.read address length
    pure (.bytes bytes)

/-- The procedure of whatever can happen on the bus of a device of this size. -/
def FarAct.procedure (size : UInt16) : FarAct → Procedure Response
  | adjust adjustment => .change adjustment.apply (.done (.ok .done))
  | .event e => .handle e (.done (.ok .done))
  | .call c => c.procedure
  | get register => do
    let value ← Procedure.get size register
    pure (.bytes [value])

/-! ## 2. The calls they describe

A homomorphism: what is put together on one side is put together on the other. -/

namespace Procedure

variable {η ω α γ : Type} [Observer η ω]

/-- The call that a procedure describes.  Each constructor is one action on the link. -/
def call : Procedure α → Controller.Call η ω α
  | done result => Action.ofExcept result
  | log entry rest => do
    Action.log entry
    rest.call
  | look rest => do
    let link ← Action.get
    (rest link.bus).call
  | change f rest => do
    Link.modifyBus f
    rest.call
  | handle event rest => do
    Link.handle event
    rest.call

theorem call_bind (p : Procedure α) (f : α → Procedure γ) :
    ((p >>= f).call : Controller.Call η ω γ) = p.call >>= fun x => (f x).call := by
  change ((p.bind f).call : Controller.Call η ω γ) = _
  induction p with
  | done result =>
    cases result with
    | ok x => rfl
    | error e => rfl
  | log entry rest ih => simp only [bind, call, bind_assoc, ih]
  | look rest ih => simp only [bind, call, bind_assoc, ih]
  | change g rest ih => simp only [bind, call, bind_assoc, ih]
  | handle event rest ih => simp only [bind, call, bind_assoc, ih]

theorem call_pure (x : α) :
    ((Pure.pure x : Procedure α).call : Controller.Call η ω α) = Pure.pure x := rfl

theorem call_signal (event : BusEvent) :
    ((signal event).call : Controller.Call η ω Unit) = Controller.signal event := by
  simp only [signal, call, Action.ofExcept_ok, bind_pure_unit, Controller.signal]

theorem call_address (request : BusEvent) :
    ((address request).call : Controller.Call η ω Unit) = Controller.address request := by
  simp only [address, call, Controller.address]
  congr 1
  funext link
  split
  · rfl
  · rcases link.bus.fault with _ | fault
    · rfl
    · simp only [call, call_bind, call_signal, Action.ofExcept_error]

theorem call_send (bytes : List UInt8) :
    ((send bytes).call : Controller.Call η ω Nat) = Controller.send bytes := by
  simp only [send, call, call_bind, call_address, call_signal, Controller.send]
  congr 1
  funext _
  congr 1
  funext _
  congr 1
  funext _
  congr 1
  funext link
  split
  · simp only [call, call_bind, call_signal, call_pure, Action.ofExcept_ok, bind_pure_unit]
  · simp only [call_bind, call_signal, call_pure]

theorem call_receive (length : Nat) :
    ((receive length).call : Controller.Call η ω (List UInt8)) = Controller.receive length := by
  simp only [receive, call, call_bind, call_address, call_signal, call_pure, Controller.receive]

theorem call_seek (target : UInt16) :
    ((seek target).call : Controller.Call η ω Unit) = Controller.seek target := by
  simp only [seek, call_bind, call_send, call_pure, Controller.seek]

theorem call_read (target : UInt16) (length : Nat) :
    ((read target length).call : Controller.Call η ω (List UInt8))
      = Controller.read target length := by
  simp only [read, call_bind, call_seek, call_receive, Controller.read]

/-- A register is asked for with the size of the device in mind.  A call looks the size up when it
is run, and a procedure has it from the start. -/
theorem call_get (r : Register) (l : Link η SimulatedBus) :
    ((get l.target.device.config.size r).call : Controller.Call η ω UInt8).run l
      = (r.get : Controller.Call η ω UInt8).run l := by
  refine Eq.trans ?_ (Action.run_get_bind _ l).symm
  by_cases hr : l.target.device.config.size ≤ r.address
  · simp only [get, if_pos hr, call, Action.ofExcept_error]
  · simp only [get, if_neg hr, call_bind, call_read]
    congr 2
    funext bytes
    cases bytes with
    | nil => rfl
    | cons value rest => rfl

end Procedure

theorem FarCall.call_procedure [Observer η ω] (c : FarCall) :
    (c.procedure.call : Controller.Call η ω Response) = c.run := by
  cases c with
  | send bytes =>
    simp only [procedure, run, Procedure.call_bind, Procedure.call_send, Procedure.call_pure,
      bind_pure_comp]
  | receive length =>
    simp only [procedure, run, Procedure.call_bind, Procedure.call_receive, Procedure.call_pure,
      bind_pure_comp]
  | seek address =>
    simp only [procedure, run, Procedure.call_bind, Procedure.call_seek, Procedure.call_pure,
      bind_pure_comp]
  | write address bytes =>
    simp only [procedure, run, Procedure.call_bind, Procedure.call_send, Procedure.call_pure,
      Controller.write, bind_pure_comp, Functor.map_map]
  | read address length =>
    simp only [procedure, run, Procedure.call_bind, Procedure.call_read, Procedure.call_pure,
      bind_pure_comp]

/-- **The procedures are what controllers do.**  There is one case for each act. -/
theorem FarAct.call_procedure [Observer η ω] (act : FarAct) (l : Link η SimulatedBus) :
    ((act.procedure l.target.device.config.size).call : Controller.Call η ω Response).run l
      = act.run.run l := by
  cases act with
  | adjust adjustment => rfl
  | event e =>
    simp only [procedure, run, Procedure.call, Action.ofExcept_ok, bind_pure_comp]
  | call c => rw [procedure, run, c.call_procedure]
  | get register =>
    simp only [procedure, run, Procedure.call_bind, Procedure.call_pure, bind_pure_comp,
      Action.run_map, Procedure.call_get]

/-! ## 3. Playing a procedure

What came of each event is kept, so that what was notified can be read off afterwards. -/

/-- What playing a procedure gives and leaves, and what came of each event.  Messages for the log
are not kept. -/
structure Played (α : Type) where
  result : Except EepromError α
  device : Device
  bus : SimulatedBus
  events : List (BusEvent × Served)

namespace Played

variable {α γ : Type}

/-- The accesses that were notified, each with the device as it was then.  This is what an observer
is told, in order. -/
def told (p : Played α) : List (Device × Notification) :=
  p.events.filterMap fun e => e.2.notification.map fun n => (e.2.device, n)

/-- What came of an event, and what came of the rest.  The result is that of the rest, as an event
has none. -/
def after (p : Played α) (event : BusEvent) (served : Served) : Played α :=
  { p with events := (event, served) :: p.events }

/-- What goes on from there, unless it ended with an error.  The events so far are kept in either
case. -/
def andThen (p : Played α) (next : α → Device → SimulatedBus → Played γ) : Played γ :=
  match p.result with
  | .error e => { p with result := .error e }
  | .ok x =>
    let later := next x p.device p.bus
    { later with events := p.events ++ later.events }

theorem andThen_of_ok {p : Played α} {x : α} (h : p.result = .ok x)
    (next : α → Device → SimulatedBus → Played γ) :
    p.andThen next
      = { next x p.device p.bus with events := p.events ++ (next x p.device p.bus).events } := by
  simp only [andThen, h]

theorem andThen_of_error {p : Played α} {e : EepromError} (h : p.result = .error e)
    (next : α → Device → SimulatedBus → Played γ) :
    p.andThen next = ⟨.error e, p.device, p.bus, p.events⟩ := by
  simp only [andThen, h]

theorem after_andThen (p : Played α) (event : BusEvent) (served : Served)
    (next : α → Device → SimulatedBus → Played γ) :
    (p.after event served).andThen next = (p.andThen next).after event served := by
  rcases p with ⟨_ | x, d, bus, events⟩
  · rfl
  · rfl

theorem told_after (p : Played α) (event : BusEvent) (served : Served) :
    (p.after event served).told
      = (served.notification.toList.map fun n => (served.device, n)) ++ p.told := by
  rcases hn : served.notification with _ | n
  · exact List.filterMap_cons_none (by rw [hn]; rfl)
  · exact List.filterMap_cons_some (by rw [hn]; rfl)

end Played

namespace Procedure

variable {α γ : Type}

/-- Play a procedure.  Before each event the owner of the device has some calls made.  (Nothing
but an event looks at the device, so they may as well have been made at any time since the event
before it.) -/
def play : Procedure α → List (List OwnerCall) → Device → SimulatedBus → Played α
  | done result, _, d, bus => ⟨result, d, bus, []⟩
  | log _ rest, gaps, d, bus => rest.play gaps d bus
  | look rest, gaps, d, bus => (rest bus).play gaps d bus
  | change f rest, gaps, d, bus => rest.play gaps d (f bus)
  | handle event rest, gaps, d, bus =>
    let handled := (d.serveAll (gaps.headD [])).handle bus event
    (rest.play gaps.tail handled.device handled.bus).after event handled.toServed

end Procedure

variable {η ω ε α γ β : Type} [Observer η ω]

/-- What comes after an action that ends well.  The rest need not end well, so this is no case of
what sequences yield. -/
theorem Link.Yields.run_bind {a : Action (Link η β) ω ε α} {l : Link η β} {x : α} {d : Device}
    {bus : β} {told : List (Device × Notification)} (ha : Yields a l x d bus told)
    (f : α → Action (Link η β) ω ε γ) :
    let heard := Observer.hear l.target.observer told
    let later := (f x).run ⟨⟨d, heard.1⟩, bus⟩
    ((a >>= f).run l).result = later.result ∧ ((a >>= f).run l).state = later.state ∧
      ((a >>= f).run l).reports = heard.2 ++ later.reports := by
  intro heard later
  have hrun : a.run l = ⟨.ok x, ⟨⟨d, heard.1⟩, bus⟩, (a.run l).trace⟩ := by
    rw [← ha.result_eq, ← ha.state_eq]
  rw [Action.run_bind_of_ok hrun]
  refine ⟨rfl, rfl, ?_⟩
  rw [← ha.reports_eq]
  exact List.filterMap_append

/-- **Playing a procedure without interruption is the call.**  It gives the same, leaves the same,
and whoever observes hears the same. -/
theorem Procedure.run_call (p : Procedure α) (l : Link η SimulatedBus) :
    let played := p.play [] l.target.device l.bus
    let heard := Observer.hear l.target.observer played.told
    let outcome := (p.call : Controller.Call η ω α).run l
    outcome.result = played.result ∧ outcome.state = ⟨⟨played.device, heard.1⟩, played.bus⟩ ∧
      outcome.reports = heard.2 := by
  -- Each event leaves another link to go on with, so the induction is over all of them.
  induction p generalizing l with
  | done result => exact ⟨rfl, rfl, rfl⟩
  | log entry rest ih =>
    obtain ⟨hresult, hstate, hreports⟩ :=
      (Link.Yields.log (ε := EepromError) (ω := ω) l entry).run_bind fun _ => rest.call
    obtain ⟨hresult', hstate', hreports'⟩ := ih l
    exact ⟨hresult.trans hresult', hstate.trans hstate', hreports.trans hreports'⟩
  | look rest ih => exact ih l.bus l
  | change f rest ih =>
    obtain ⟨hresult, hstate, hreports⟩ :=
      (Link.Yields.modifyBus (ε := EepromError) (ω := ω) l f).run_bind fun _ => rest.call
    obtain ⟨hresult', hstate', hreports'⟩ := ih ⟨l.target, f l.bus⟩
    exact ⟨hresult.trans hresult', hstate.trans hstate', hreports.trans hreports'⟩
  | handle event rest ih =>
    intro played heard outcome
    obtain ⟨hresult, hstate, hreports⟩ :=
      (Link.yields_handle (ε := EepromError) (ω := ω) l event rfl).run_bind fun _ => rest.call
    obtain ⟨hresult', hstate', hreports'⟩ := ih _
    have hheard : heard = _ :=
      (congrArg _ (Played.told_after ..)).trans (Observer.hear_append ..)
    refine ⟨hresult.trans hresult', ?_, ?_⟩
    · rw [hheard]
      exact hstate.trans hstate'
    · rw [hheard]
      exact hreports.trans (congrArg _ hreports')

/-- What comes of a step on a bus is what playing its procedure leaves.  So whatever is proved of
procedures is proved of steps. -/
theorem Board.step_far (b : Board) (place : Nat) (act : FarAct) :
    let played := (act.procedure b.device.config.size).play [] b.device (b.buses place)
    b.step (.far place act)
      = ⟨played.result, played.told.map Prod.snd,
          ⟨played.device, Function.update b.buses place played.bus⟩⟩ := by
  intro played
  let l := b.link place (some Board.listener)
  let outcome : Outcome (Link Recorder SimulatedBus) Record EepromError Response := act.run.run l
  have hcall : (act.procedure b.device.config.size).call.run l = outcome := act.call_procedure l
  obtain ⟨hresult, hstate, hreports⟩ :=
    (act.procedure b.device.config.size).run_call (η := Recorder) (ω := Record) l
  rw [hcall] at hresult hstate hreports
  have hnotified : outcome.reports.map Record.notification = played.told.map Prod.snd := by
    rw [hreports]
    exact hear_listener played.told
  calc b.step (.far place act)
      = ⟨outcome.result, outcome.reports.map Record.notification,
          ⟨outcome.state.target.device, Function.update b.buses place outcome.state.bus⟩⟩ := rfl
    _ = _ := by
      rw [hresult, hnotified, hstate]
      rfl

namespace Procedure

variable {gaps : List (List OwnerCall)} {d e : Device} {bus : SimulatedBus}

theorem play_bind (p : Procedure α) (f : α → Procedure γ) :
    (p >>= f).play gaps d bus
      = (p.play gaps d bus).andThen fun x =>
          (f x).play (gaps.drop (p.play gaps d bus).events.length) := by
  change (p.bind f).play gaps d bus = _
  induction p generalizing gaps d bus with
  | done result =>
    cases result with
    | ok x => rfl
    | error e => rfl
  | log entry rest ih => exact ih
  | look rest ih => exact ih bus
  | change g rest ih => exact ih
  | handle event rest ih =>
    refine (congrArg (Played.after · event _) ih).trans ?_
    rw [← Played.after_andThen]
    simp only [List.drop_tail]
    rfl

/-- What is made of the result in the end has no part in the rest.  Most calls end so, with their
result put into a response. -/
theorem play_bind_done (p : Procedure α) (f : α → Except EepromError γ) :
    (p >>= fun x => done (f x)).play gaps d bus
      = ⟨(p.play gaps d bus).result.bind f, (p.play gaps d bus).device, (p.play gaps d bus).bus,
          (p.play gaps d bus).events⟩ := by
  rw [play_bind]
  rcases hr : (p.play gaps d bus).result with e | x
  · rw [Played.andThen_of_error hr]
    rfl
  · rw [Played.andThen_of_ok hr]
    change (⟨f x, _, _, _ ++ []⟩ : Played γ) = _
    rw [List.append_nil]
    rfl

theorem play_map (p : Procedure α) (f : α → γ) :
    (p >>= fun x => pure (f x)).play gaps d bus
      = ⟨(p.play gaps d bus).result.map f, (p.play gaps d bus).device, (p.play gaps d bus).bus,
          (p.play gaps d bus).events⟩ := by
  refine (p.play_bind_done fun x => .ok (f x)).trans ?_
  rcases (p.play gaps d bus).result with e | x
  · rfl
  · rfl

/-- To ask for a register within the device is to read a byte there, and to see what was found. -/
theorem play_get {size : UInt16} {r : Register} (hr : ¬ size ≤ r.address) :
    let read := (read r.address 1).play gaps d bus
    (get size r).play gaps d bus
      = ⟨read.result.bind fun
            | value :: _ => .ok value
            | [] => .error (.outOfBounds ⟨r.address, 1, size⟩),
          read.device, read.bus, read.events⟩ := by
  intro read
  rw [get, if_neg hr, ← play_bind_done]
  congr 2
  funext bytes
  cases bytes with
  | nil => rfl
  | cons value rest => rfl

end Procedure

theorem Reachable.play {config : DeviceConfig} (p : Procedure α) :
    ∀ {gaps : List (List OwnerCall)} {d : Device} {bus : SimulatedBus}, Reachable config d →
      Reachable config (p.play gaps d bus).device := by
  induction p with
  | done result => exact fun h => h
  | log entry rest ih => exact ih
  | look rest ih => exact ih _
  | change g rest ih => exact ih
  | handle event rest ih => exact fun h => ih ((h.serveAll _).handled rfl)

theorem Board.reachable_step {config : DeviceConfig} {b : Board} (h : Reachable config b.device)
    (s : Step) : Reachable config (b.step s).board.device := by
  cases s with
  | inside call => exact h.serve call
  | far place act =>
    rw [b.step_far place act]
    exact h.play _

end SerialEeprom
