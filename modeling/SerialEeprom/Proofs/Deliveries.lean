/-
# Who is told of what

A target is told who observes it from outside, at any time, and by its observers: each one, while
it is told of an access, settles who observes the next.  An observer is called in the middle of an
event, so it matters in which order contents, cursor and staged buffer are brought up to date, the
observer is looked up, and it is called.

Deliveries are found by listening in.  An observer of any kind is put into another one that lets it
do what it does and reports the calls (`Overheard`), and what these report in a run is what was
delivered in it (`Target.deliveries`).  Listening in changes nothing: the run goes as it does
without (`overheard_step`).  So deliveries are a notion for observers of all kinds, also of those
that keep silent.

Who should have been told is said without running an observer in the middle.  A run has occasions,
which are the completed accesses, each with the list of all registrations before it
(`Target.occasions`); an occasion is for whoever stands last in its list.  That this is who is
called comes from one invariant, that the observer of a target is always the one registered last
(`getLast?_registrations`), and it is kept by each step.

The rest is about the moment.  What completes an access is defined by the event and what is staged
(`Device.Completes`), and is shown to be what the device notifies.  When it is delivered, the
transaction is over: nothing is staged, the cursor is behind the bytes and what came in is stored,
so whatever an observer does with the device, it does to one that is at rest.

Main statement: each completed access is delivered to the observer registered last before it, in
the order of the completions, and when it is delivered the transaction is over
(`deliveries_follow_completions`).
-/
import SerialEeprom.Proofs.Staging

namespace SerialEeprom

variable {η ω : Type} [Observer η ω] {config : DeviceConfig} {d : Device} {m : Move}

/-! ## 1. Deliveries

A step is anything that can happen to a target: a move of its device, or a word on who observes. -/

/-- A call of an observer: which one it is, and what it is given.  What it does then is a function
of these. -/
structure Delivery (η : Type) where
  observer : η
  device : Device
  notification : Notification

namespace Delivery

/-- Who observes after the call.  It is for the observer that was called to say. -/
def next (call : Delivery η) : Option η :=
  (Observer.react call.observer call.device call.notification).next

/-- What the observer reports in the call. -/
def reports (call : Delivery η) : List ω :=
  (Observer.react call.observer call.device call.notification).trace.filterMap Emission.report?

end Delivery

/-- An observer, with someone who reports each call of it.  Its own reports are not passed on; they
are known from the call. -/
structure Overheard (η : Type) where
  observer : η

/-- The same call, of an observer that is overheard.  It reports the call in place of what it would
have said. -/
def Delivery.overheard (call : Delivery η) : Delivery (Overheard η) :=
  ⟨⟨call.observer⟩, call.device, call.notification⟩

instance : Observer (Overheard η) (Delivery η) where
  react o d n := ⟨[.report ⟨o.observer, d, n⟩], (Observer.react o.observer d n).next.map .mk⟩

namespace Target

/-- One thing that can happen to a target.  Registering and clearing are done from outside, between
two moves. -/
inductive Step (η : Type) : Type 1 where
  | move (m : Move)
  | register (observer : η)
  | clear

/-- What a step leaves of a target, and what its observer reports on the way.  A registration
reports nothing, and takes the place of whoever was there. -/
def step (t : Target η) : Step η → Target η × List ω
  | .move m => t.move m
  | .register observer => ({ t with observer := some observer }, [])
  | .clear => ({ t with observer := none }, [])

/-- What any number of steps leaves of a target, and what its observers report on the way. -/
def run (t : Target η) : List (Step η) → Target η × List ω
  | [] => (t, [])
  | s :: steps =>
    let rest := (t.step s).1.run steps
    (rest.1, (t.step s).2 ++ rest.2)

/-- The same step, with whoever it registers overheard from then on. -/
def Step.overheard : Step η → Step (Overheard η)
  | .move m => .move m
  | .register observer => .register ⟨observer⟩
  | .clear => .clear

/-- The same target, with its observer overheard. -/
def overheard (t : Target η) : Target (Overheard η) :=
  ⟨t.device, t.observer.map .mk⟩

/-- The calls of observers in a run.  They are the reports of the same run with every observer
overheard. -/
def deliveries (t : Target η) (steps : List (Step η)) : List (Delivery η) :=
  (t.overheard.run (steps.map Step.overheard)).2

/-! ## 2. One step -/

/-- The call that a move leads to, with the observer that there is before it.  Neither the observer
nor the target is run to find it. -/
def due (t : Target η) (m : Move) : Option (Delivery η) :=
  match t.observer, (t.device.move m).notification with
  | some observer, some n => some ⟨observer, (t.device.move m).device, n⟩
  | _, _ => none

theorem move_of_due {t : Target η} {call : Delivery η} (h : t.due m = some call) :
    t.move m = (⟨call.device, call.next⟩, call.reports) := by
  unfold due at h
  split at h
  next observer n ho hn =>
    obtain rfl := Option.some.inj h
    simp only [move_eq_hear, ho, hn, Option.toList, List.map_cons, List.map_nil, Observer.hear,
      List.append_nil, Delivery.next, Delivery.reports]
  next => cases h

theorem move_of_not_due {t : Target η} (h : t.due m = none) :
    t.move m = ({ t with device := (t.device.move m).device }, []) := by
  rcases ho : t.observer with _ | observer
  · rw [move_eq_hear, ho, Observer.hear_none, ← ho]
  · rcases hn : (t.device.move m).notification with _ | n
    · rw [move_eq_hear, hn, ho]
      rfl
    · simp only [due, ho, hn] at h
      cases h

theorem device_move (t : Target η) (m : Move) : (t.move m).1.device = (t.device.move m).device := by
  rw [move_eq_hear]

theorem due_overheard (t : Target η) (m : Move) :
    t.overheard.due m = (t.due m).map Delivery.overheard := by
  rcases ho : t.observer with _ | observer
  · simp only [due, overheard, ho, Option.map_none]
  · rcases hn : (t.device.move m).notification with _ | n
    · simp only [due, overheard, ho, hn, Option.map_some, Option.map_none]
    · simp only [due, overheard, ho, hn, Option.map_some, Delivery.overheard]

/-- The calls in one step.  There is one at most. -/
def delivered (t : Target η) (s : Step η) : List (Delivery η) :=
  (t.overheard.step s.overheard).2

/-- **A move calls the observer that there is before it**, if it completes an access.  It is called
once, with the device as the move leaves it. -/
theorem delivered_move (t : Target η) (m : Move) : t.delivered (.move m) = (t.due m).toList := by
  have hdue := t.due_overheard m
  rcases h : t.due m with _ | call
  · rw [h] at hdue
    exact congrArg Prod.snd (move_of_not_due hdue)
  · rw [h] at hdue
    exact congrArg Prod.snd (move_of_due hdue)

/-- **Listening in changes nothing**: what is left is the same, and what is reported is what the
observers report in the calls overheard. -/
theorem overheard_step (t : Target η) (s : Step η) :
    (t.overheard.step s.overheard).1 = (t.step s).1.overheard ∧
      (t.step s).2 = (t.delivered s).flatMap Delivery.reports := by
  cases s with
  | move m =>
    have hdue := t.due_overheard m
    rw [delivered_move]
    rcases h : t.due m with _ | call
    · rw [h] at hdue
      simp only [step, Step.overheard, move_of_not_due h, move_of_not_due hdue]
      exact ⟨rfl, rfl⟩
    · rw [h] at hdue
      simp only [step, Step.overheard, move_of_due h, move_of_due hdue]
      exact ⟨rfl, (List.append_nil _).symm⟩
  | register observer => exact ⟨rfl, rfl⟩
  | clear => exact ⟨rfl, rfl⟩

/-! ## 3. Many steps

Registrations are collected on the way, from outside and by the observers that are called. -/

theorem deliveries_cons (t : Target η) (s : Step η) (steps : List (Step η)) :
    t.deliveries (s :: steps) = t.delivered s ++ (t.step s).1.deliveries steps := by
  simp only [deliveries, List.map_cons, run, (t.overheard_step s).1]
  rfl

/-- What is reported in a run is what the observers report in the calls.  So there are no reports
but those, and they are in the order of the calls. -/
theorem reports_run (steps : List (Step η)) (t : Target η) :
    (t.run steps).2 = (t.deliveries steps).flatMap Delivery.reports := by
  induction steps generalizing t with
  | nil => rfl
  | cons s steps ih =>
    rw [run, deliveries_cons, List.flatMap_append, ← ih, ← (t.overheard_step s).2]

end Target

/-- A completed access in a run: whoever was registered before it, the last one at the end, and
what the device and the notification were. -/
structure Occasion (η : Type) where
  registered : List (Option η)
  device : Device
  notification : Notification

/-- The access is delivered to the one registered last, if there is one.  If the last registration
was to have nobody, it is not delivered. -/
def Occasion.delivery (o : Occasion η) : Option (Delivery η) :=
  o.registered.getLast?.join.map fun observer => ⟨observer, o.device, o.notification⟩

namespace Target

/-- Who is registered in one step, `none` where the observer is taken away: from outside, or by
an observer that is called. -/
def registrations (t : Target η) : Step η → List (Option η)
  | .register observer => [some observer]
  | .clear => [none]
  | .move m => (t.delivered (.move m)).map Delivery.next

/-- The access that a step completes, if it does, after these registrations. -/
def completed (registered : List (Option η)) (t : Target η) : Step η → List (Occasion η)
  | .move m =>
    (t.device.move m).notification.toList.map (⟨registered, (t.device.move m).device, ·⟩)
  | _ => []

/-- The accesses completed in a run, in order, after these registrations.  Each comes with all
registrations up to it; those it leads to itself come later. -/
def occasions (registered : List (Option η)) (t : Target η) : List (Step η) → List (Occasion η)
  | [] => []
  | s :: steps =>
    t.completed registered s ++ occasions (registered ++ t.registrations s) (t.step s).1 steps

/-- The observer is always the one registered last.  This is the invariant of runs: every way to
change the observer is a registration. -/
theorem getLast?_registrations {registered : List (Option η)} {t : Target η}
    (h : registered.getLast? = some t.observer) (s : Step η) :
    (registered ++ t.registrations s).getLast? = some (t.step s).1.observer := by
  cases s with
  | register observer => exact List.getLast?_concat
  | clear => exact List.getLast?_concat
  | move m =>
    rw [registrations, delivered_move, step]
    rcases hd : t.due m with _ | call
    · rw [move_of_not_due hd]
      exact (congrArg List.getLast? (List.append_nil _)).trans h
    · rw [move_of_due hd]
      exact List.getLast?_concat

/-- A step delivers what it completes to the one registered last.  With nobody registered it
delivers nothing. -/
theorem delivered_eq {registered : List (Option η)} {t : Target η}
    (h : registered.getLast? = some t.observer) (s : Step η) :
    t.delivered s = (t.completed registered s).filterMap Occasion.delivery := by
  cases s with
  | register observer => rfl
  | clear => rfl
  | move m =>
    rw [delivered_move, due, completed]
    rcases hn : (t.device.move m).notification with _ | n
    · rcases ho : t.observer with _ | observer
      · rfl
      · rfl
    · rcases ho : t.observer with _ | observer
      · simp [Occasion.delivery, h, ho]
      · simp [Occasion.delivery, h, ho]

theorem deliveries_eq (steps : List (Step η)) {registered : List (Option η)} {t : Target η}
    (h : registered.getLast? = some t.observer) :
    t.deliveries steps = (t.occasions registered steps).filterMap Occasion.delivery := by
  induction steps generalizing registered t with
  | nil => rfl
  | cons s steps ih =>
    rw [deliveries_cons, ih (getLast?_registrations h s), delivered_eq h, occasions,
      List.filterMap_append]

/-- Whatever is delivered is due at some move of the run.  With it come the moves in front, which
say in which state the device is then. -/
theorem exists_due_of_mem {steps : List (Step η)} {t : Target η} {call : Delivery η}
    (h : call ∈ t.deliveries steps) :
    ∃ (earlier : List (Step η)) (m : Move) (later : List (Step η)),
      steps = earlier ++ .move m :: later ∧ (t.run earlier).1.due m = some call := by
  induction steps generalizing t with
  | nil => exact absurd h List.not_mem_nil
  | cons s steps ih =>
    rw [deliveries_cons, List.mem_append] at h
    rcases h with h | h
    · cases s with
      | move m =>
        rw [delivered_move, Option.mem_toList] at h
        exact ⟨[], m, steps, rfl, h⟩
      | register observer => cases h
      | clear => cases h
    · obtain ⟨earlier, m, later, rfl, hdue⟩ := ih h
      exact ⟨s :: earlier, m, later, rfl, hdue⟩

end Target

theorem Reachable.step {t : Target η} (h : Reachable config t.device) (s : Target.Step η) :
    Reachable config (t.step s).1.device := by
  cases s with
  | move m =>
    rw [Target.step, Target.device_move]
    exact h.moved m
  | register observer => exact h
  | clear => exact h

theorem Reachable.run {t : Target η} (h : Reachable config t.device)
    (steps : List (Target.Step η)) : Reachable config (t.run steps).1.device := by
  induction steps generalizing t with
  | nil => exact h
  | cons s steps ih => exact ih (h.step s)

/-! ## 4. Completed accesses

Said by the event and what is staged, and then found to be what is notified. -/

namespace Device

/-- The move completes this access.  There is one way for reads and one for writes, both at the end
of what is staged. -/
inductive Completes (d : Device) : Move → Notification → Prop
  /-- At the end of a read for which bytes are staged: from the cursor on, as many bytes as were
  sent, and no more than were offered. -/
  | read {β : Type} [Peripheral β] {bus : β} {offered sent : Nat} :
    d.staged = some (.transmit offered) →
      Completes d (.event bus (.readDone sent)) ⟨.read, d.cursor, (min sent offered).toUInt16⟩
  /-- At the end of a write that was given room, and that brings an address of the device and
  something to store there: as much of it as fits. -/
  | write {β : Type} [Peripheral β] {bus : β} {received : Nat} {address : UInt16}
      {payload : List UInt8} :
    d.staged = some .receive → d.usable bus received = BigEndian.toBytes address ++ payload →
      payload ≠ [] → address < d.config.size →
        Completes d (.event bus (.writeDone received))
          ⟨.write, address, (min payload.length (d.store.cells.length - address.toNat)).toUInt16⟩

theorem acceptBytes_payload (d : Device) {address : UInt16} (ha : address < d.config.size)
    (payload : List UInt8) :
    d.acceptBytes (BigEndian.toBytes address ++ payload) = d.storePayload address payload := by
  simp only [BigEndian.toBytes, List.cons_append, List.nil_append, acceptBytes,
    BigEndian.ofBytes_toBytes, if_pos ha]

/-- What the end of a write does that completes an access.  The device is given field by field, with
the messages left open. -/
theorem closeWrite_of_payload {β : Type} [Peripheral β] {bus : β} {received : Nat}
    {address : UInt16} {payload : List UInt8} (hs : d.staged = some .receive)
    (hbytes : d.usable bus received = BigEndian.toBytes address ++ payload) (hp : payload ≠ [])
    (ha : address < d.config.size) :
    let taken := Peripheral.takeReceived bus d.scratch
    let kept := (min payload.length (d.store.cells.length - address.toNat)).toUInt16
    ∃ log, d.closeWrite bus received
      = ⟨⟨{ d with
            staged := none, scratch := taken.buffer, cursor := address + kept,
            store.cells := overlay d.store.cells address.toNat payload },
          some ⟨.write, address, kept⟩, log⟩, taken.bus⟩ := by
  intro taken kept
  have haccept := acceptBytes_payload { d with staged := none, scratch := taken.buffer } ha payload
  rw [closeWrite_of_receive hs, hbytes, haccept, storePayload, if_neg hp]
  exact ⟨_, rfl⟩

theorem Completes.notification_eq {n : Notification} (h : d.Completes m n) :
    (d.move m).notification = some n := by
  cases h with
  | read hs =>
    obtain ⟨log, hserved⟩ := closeRead_of_transmit hs _ _
    exact congrArg (fun handled : Handled _ => handled.notification) hserved
  | write hs hbytes hp ha =>
    obtain ⟨log, hserved⟩ := closeWrite_of_payload hs hbytes hp ha
    exact congrArg (fun handled : Handled _ => handled.notification) hserved

theorem completes_of_isSome (h : (d.move m).notification.isSome) : ∃ n, d.Completes m n := by
  cases m with
  | event bus event =>
    have h : (d.handle bus event).notification.isSome := h
    -- What is notified has an effect, and what has an effect is a completion that is due.
    have hserves : d.Serves (.event bus event) := by
      refine .inr fun hsilent => ?_
      rw [hsilent.notification_eq] at h
      cases h
    obtain ⟨staged, count, hs, rfl⟩ := hserves.staged_eq
    cases staged with
    | transmit offered => exact ⟨_, .read hs⟩
    | receive =>
      rw [Staged.completion, handle] at h
      rcases closeWrite_cases hs bus count with
        ⟨log, -, hserved⟩ | ⟨address, -, -, hserved⟩ | ⟨address, payload, hbytes, hp, ha, -⟩
      · rw [hserved] at h
        cases h
      · rw [hserved] at h
        cases h
      · exact ⟨_, .write hs hbytes hp ha⟩
  | write address bytes => cases h
  | read address length => cases h
  | readInto address buffer => cases h
  | load address image => cases h

/-- **What is notified are the completed accesses.**  The right side does not mention notifications,
nor the handler of any event. -/
theorem notification_move_iff {n : Notification} :
    (d.move m).notification = some n ↔ d.Completes m n := by
  refine ⟨fun h => ?_, Completes.notification_eq⟩
  obtain ⟨k, hk⟩ := completes_of_isSome (Option.isSome_of_mem h)
  exact Option.some.inj (hk.notification_eq.symm.trans h) ▸ hk

/-! ## 5. When it is delivered -/

/-- The transaction with this access is over: nothing is staged, and the cursor is behind the bytes
of the access, which can be read from inside unless they are the last ones of the device. -/
structure Over (d : Device) (n : Notification) : Prop where
  staged_eq : d.staged = none
  cursor_eq : d.cursor.toNat = n.address.toNat + n.length.toNat
  read_eq :
    ((read n.address n.length : Action Device Empty EepromError _).run d).result =
      if n.address.toNat + n.length.toNat < d.config.size.toNat then
        .ok ((d.store.cells.drop n.address.toNat).take n.length.toNat)
      else .error (.outOfBounds ⟨n.address, n.length.toNat, d.config.size⟩)

theorem Sound.run_read (h : d.Sound config) (address length : UInt16) :
    ((read address length : Action Device Empty EepromError _).run d).result =
      if address.toNat + length.toNat < d.config.size.toNat then
        .ok ((d.store.cells.drop address.toNat).take length.toNat)
      else .error (.outOfBounds ⟨address, length.toNat, d.config.size⟩) := by
  have hsize : d.store.size = d.config.size := h.size_eq.trans (congrArg _ h.config_eq.symm)
  simp only [Action.run, read, found, Store.read, Store.checkBounds, hsize, Store.slice]
  split
  · rfl
  · rfl

theorem Sound.is_over (h : d.Sound config) {n : Notification} (hc : d.Completes m n) :
    (d.move m).device.Over n := by
  have hafter : (d.move m).device.Sound config := h.move m
  have hn := hc.notification_eq
  cases m with
  | event bus event =>
    refine ⟨?_, ?_, hafter.run_read ..⟩
    · cases hc with
      | read hs => exact d.staged_closeRead bus _
      | write hs => exact d.staged_closeWrite bus _
    · have haccounts := h.handle_accounts bus event
      have hn : (d.handle bus event).notification = some n := hn
      rw [hn] at haccounts
      cases hc with
      | read hs => exact haccounts.2.1
      | write hs => exact haccounts.2.2.1
  | write address bytes => cases hn
  | read address length => cases hn
  | readInto address buffer => cases hn
  | load address image => cases hn

/-- What fits of the bytes that came in behind the address is then in its place.  The observer can
read it there, from inside. -/
theorem Sound.stored_eq (h : d.Sound config) {n : Notification} {β : Type} [Peripheral β] {bus : β}
    {received : Nat} (hc : d.Completes (.event bus (.writeDone received)) n) :
    ((d.closeWrite bus received).device.store.cells.drop n.address.toNat).take n.length.toNat
      = ((d.usable bus received).drop 2).take n.length.toNat := by
  have hsize := config.size.toNat_lt
  have hcells := h.length_cells
  cases hc with
  | @write _ _ _ _ address payload hs hbytes hp ha =>
    obtain ⟨log, hserved⟩ := closeWrite_of_payload hs hbytes hp ha
    have hpayload : (d.usable bus received).drop 2 = payload := by rw [hbytes]; rfl
    rw [h.config_eq, UInt16.lt_iff_toNat_lt] at ha
    rw [hserved, hpayload]
    dsimp only
    generalize hkept : min payload.length (d.store.cells.length - address.toNat) = kept
    have hword : kept.toUInt16.toNat = kept := by
      rw [UInt16.toNat_ofNat', Nat.mod_eq_of_lt (by omega)]
    have hlength : (payload.take kept).length = kept := List.length_take_of_le (by omega)
    have hroom : min kept payload.length
        = min (d.store.cells.length - address.toNat) payload.length := by omega
    have hfits : address.toNat + (payload.take kept).length ≤ d.store.cells.length := by omega
    have hback := take_drop_overlay hfits
    rw [hlength, overlay_take d.store.cells payload hroom] at hback
    rwa [hword]

end Device

/-- The call comes at the end of this move, with the access that the move completes, when the
transaction is over and what came in is stored. -/
structure Delivery.Concludes (call : Delivery η) (before : Device) (m : Move) : Prop where
  completes : before.Completes m call.notification
  device_eq : call.device = (before.move m).device
  is_over : call.device.Over call.notification
  stored_eq : ∀ {β : Type} [Peripheral β] {bus : β} {received : Nat},
    m = .event bus (.writeDone received) →
      (call.device.store.cells.drop call.notification.address.toNat).take
          call.notification.length.toNat
        = ((before.usable bus received).drop 2).take call.notification.length.toNat

theorem Target.concludes_of_due {t : Target η} (h : Reachable config t.device) {call : Delivery η}
    (hd : t.due m = some call) : call.Concludes t.device m := by
  unfold due at hd
  split at hd
  next observer n ho hn =>
    obtain rfl := Option.some.inj hd
    have hc := Device.notification_move_iff.1 hn
    refine ⟨hc, rfl, h.sound.is_over hc, ?_⟩
    rintro β _ bus received rfl
    exact h.sound.stored_eq hc
  next => cases hd

/-- **Each completed access is delivered to the observer registered last before it**, whoever
registered it, in the order of the completions, and then the transaction is over:

* what is reported in a run is what the observers report in the calls;
* the calls are those of the completed accesses, each to whoever was registered last before it, be
  it from outside or by an observer that was called, and to nobody if that one was taken away;
* what counts as a completed access is what the device notifies;
* a call comes at the end of its move, when nothing is staged, the cursor is behind the access, and
  its bytes can be read from inside, unless they are the last ones of the device. -/
theorem deliveries_follow_completions {t : Target η} (h : Reachable config t.device)
    (steps : List (Target.Step η)) :
    (t.run steps).2 = (t.deliveries steps).flatMap Delivery.reports ∧
      t.deliveries steps = (t.occasions [t.observer] steps).filterMap Occasion.delivery ∧
      (∀ (d : Device) (m : Move) (n : Notification),
        (d.move m).notification = some n ↔ d.Completes m n) ∧
      ∀ call ∈ t.deliveries steps,
        ∃ (earlier : List (Target.Step η)) (m : Move) (later : List (Target.Step η)),
          steps = earlier ++ .move m :: later ∧
            call.Concludes (t.run earlier).1.device m := by
  refine ⟨Target.reports_run steps t, Target.deliveries_eq steps rfl,
    fun _ _ _ => Device.notification_move_iff, ?_⟩
  intro call hcall
  obtain ⟨earlier, m, later, hsteps, hdue⟩ := Target.exists_due_of_mem hcall
  exact ⟨earlier, m, later, hsteps, Target.concludes_of_due (h.run earlier) hdue⟩

/-- A recorder that hands over is told of a write over the end, and the one it hands over to of a
read that finds nothing there.  The next read is told to nobody, and the last write to a recorder
that is registered after it. -/
theorem deliveries_follow_changing_observers :
    let t : Target Recorder := ⟨Device.fresh { size := 8 }, some ⟨"a", .swapping⟩⟩
    let bus : ScriptedBus := { incoming := [0, 6, 1, 2, 3] }
    let other : ScriptedBus := { incoming := [0, 2, 9] }
    let steps : List (Target.Step Recorder) :=
      [.move (.event bus .writeRequested), .move (.event bus (.writeDone 5)),
        .move (.event bus .readRequested), .move (.event bus (.readDone 4)), .clear,
        .move (.event bus .readRequested), .move (.event bus (.readDone 0)),
        .register ⟨"b", .probing⟩, .move (.event other .writeRequested),
        .move (.event other (.writeDone 3))]
    Reachable { size := 8 } t.device ∧
      (t.occasions [t.observer] steps).map
          (fun o => (o.registered.map (·.map Recorder.tag), o.notification))
        = [([some "a"], ⟨.write, 6, 2⟩), ([some "a", some "a'"], ⟨.read, 8, 0⟩),
          ([some "a", some "a'", some "a'", none], ⟨.read, 8, 0⟩),
          ([some "a", some "a'", some "a'", none, some "b"], ⟨.write, 2, 1⟩)] ∧
      (t.deliveries steps).map (fun call => (call.observer.tag, call.notification))
        = [("a", ⟨.write, 6, 2⟩), ("a'", ⟨.read, 8, 0⟩), ("b", ⟨.write, 2, 1⟩)] ∧
      ∀ call ∈ t.deliveries steps, call.device.Over call.notification := by
  intro t bus other steps
  have h : Reachable { size := 8 } t.device := Reachable.of_moves rfl []
  obtain ⟨-, -, -, hcalls⟩ := deliveries_follow_completions h steps
  refine ⟨h, ?_, ?_, ?_⟩
  · decide +kernel
  · decide +kernel
  · intro call hcall
    obtain ⟨earlier, m, later, -, hconcludes⟩ := hcalls call hcall
    exact hconcludes.is_over

end SerialEeprom
