/-
# What an action yields

What an action on a link gives, what it leaves of the device and of the peripheral, and which
accesses the observer is told of on the way.  Messages for the log are left out of account.

The observer may be of any kind.  It hears of one access after the other, each time with the
device as it is then, and each time it settles who hears of the next one (`Observer.hear`).  So what
an observer reports and who observes in the end are both found from the list of what was told, and
statements about an action need to give only that list.  It is the same for every observer, as none
of them can change the device; whoever observes, and if nobody does.

`Link.Yields` says all of this of one action on one link.  It is a specification in the strict
sense: it determines the result, the state and the reports, and nothing else of the action matters
to whoever comes after it.

Main statements: what two actions yield, their sequence yields (`Yields.bind`), and every event of
every peripheral yields what the device makes of it (`yields_handle`).
-/
import SerialEeprom.Controller

namespace SerialEeprom

variable {η ω ε α γ β : Type} [Observer η ω]

/-- Who observes next, and what was reported, once an observer has heard of these accesses.  An
observer that steps down hears of no more, and neither does anybody after it. -/
def Observer.hear : Option η → List (Device × Notification) → Option η × List ω
  | observer, [] => (observer, [])
  | none, _ :: _ => (none, [])
  | some observer, (d, n) :: told =>
    let reaction := Observer.react observer d n
    let later := hear reaction.next told
    (later.1, reaction.trace.filterMap Emission.report? ++ later.2)

/-- Where nobody observes, nobody is told of anything.  Nor does anybody come to observe by it. -/
theorem Observer.hear_none :
    ∀ told : List (Device × Notification), hear (none : Option η) told = (none, [])
  | [] => rfl
  | _ :: _ => rfl

theorem Observer.hear_append (first second : List (Device × Notification)) :
    ∀ observer : Option η, hear observer (first ++ second)
      = ((hear (hear observer first).1 second).1,
          (hear observer first).2 ++ (hear (hear observer first).1 second).2) := by
  induction first with
  | nil => intro observer; rfl
  | cons told first ih =>
    intro observer
    cases observer with
    | none => simp only [hear_none, List.append_nil]
    | some observer => simp only [List.cons_append, hear, ih, List.append_assoc]

namespace Link

/-- Run on `l`, the action gives `x` and leaves the device `d` and the peripheral `bus`, and the
observer hears of these accesses. -/
structure Yields (a : Action (Link η β) ω ε α) (l : Link η β) (x : α) (d : Device) (bus : β)
    (told : List (Device × Notification)) : Prop where
  result_eq : (a.run l).result = .ok x
  state_eq : (a.run l).state = ⟨⟨d, (Observer.hear l.target.observer told).1⟩, bus⟩
  reports_eq : (a.run l).reports = (Observer.hear l.target.observer told).2

/-! ## 1. Sequences

The lists of what is told are put one behind the other. -/

namespace Yields

theorem pure (l : Link η β) (x : α) :
    Yields (Pure.pure x : Action (Link η β) ω ε α) l x l.target.device l.bus [] where
  result_eq := rfl
  state_eq := rfl
  reports_eq := rfl

theorem log (l : Link η β) (entry : LogEntry) :
    Yields (Action.log entry : Action (Link η β) ω ε Unit) l () l.target.device l.bus [] where
  result_eq := rfl
  state_eq := rfl
  reports_eq := rfl

theorem modifyBus (l : Link η β) (f : β → β) :
    Yields (Link.modifyBus f : Action (Link η β) ω ε Unit) l () l.target.device (f l.bus) [] where
  result_eq := rfl
  state_eq := rfl
  reports_eq := rfl

variable {l : Link η β} {a : Action (Link η β) ω ε α} {x : α} {y : γ} {d e : Device}
  {bus clear : β} {first second told : List (Device × Notification)}

theorem bind {f : α → Action (Link η β) ω ε γ} (ha : Yields a l x d bus first)
    (hf : Yields (f x) ⟨⟨d, (Observer.hear l.target.observer first).1⟩, bus⟩ y e clear second) :
    Yields (a >>= f) l y e clear (first ++ second) := by
  have hrun : a.run l
      = ⟨.ok x, ⟨⟨d, (Observer.hear l.target.observer first).1⟩, bus⟩, (a.run l).trace⟩ := by
    rw [← ha.result_eq, ← ha.state_eq]
  constructor
  · rw [Action.run_bind_of_ok hrun]
    exact hf.result_eq
  · rw [Action.run_bind_of_ok hrun, Observer.hear_append]
    exact hf.state_eq
  · rw [Action.run_bind_of_ok hrun, Observer.hear_append, ← ha.reports_eq, ← hf.reports_eq]
    exact List.filterMap_append

/-- Looking at the state changes nothing.  What follows goes on as if nobody had looked. -/
theorem get {f : Link η β → Action (Link η β) ω ε γ} (hf : Yields (f l) l y d bus told) :
    Yields (Action.get >>= f) l y d bus told where
  result_eq := hf.result_eq
  state_eq := hf.state_eq
  reports_eq := hf.reports_eq

/-- What is given in the end may be any function of what was found.  What is told does not depend on
it. -/
theorem map (ha : Yields a l x d bus told) (f : α → γ) :
    Yields (a >>= fun x => Pure.pure (f x)) l (f x) d bus told := by
  have h := ha.bind (f := fun x => Pure.pure (f x))
    (pure ⟨⟨d, (Observer.hear l.target.observer told).1⟩, bus⟩ (f x))
  rwa [List.append_nil] at h

end Yields

/-! ## 2. Events

An event completes one access at most, and the observer is told of it last. -/

/-- Messages are not reports.  They stand in the same trace, and are left out here. -/
theorem reports_messages (messages : List LogEntry) :
    (messages.map Emission.log : List (Emission ω)).filterMap Emission.report? = [] := by
  rw [List.filterMap_map]
  exact List.filterMap_eq_nil_iff.2 fun _ _ => rfl

/-- Being told of one access.  Where nobody observes, it is told to nobody and nothing happens. -/
theorem notify_hears (t : Target η) (n : Notification) :
    let told := (Target.notify n : Action (Target η) ω ε Unit) t
    let heard := Observer.hear t.observer [(t.device, n)]
    told.result = .ok () ∧ told.state = ⟨t.device, heard.1⟩ ∧
      told.trace.filterMap Emission.report? = heard.2 := by
  rcases ho : t.observer with _ | observer
  · simp only [Target.notify, ho, Observer.hear_none]
    refine ⟨trivial, ?_, rfl⟩
    rw [← ho]
  · simp only [Target.notify, ho, Observer.hear, List.append_nil]
    exact ⟨trivial, trivial, trivial⟩

variable [Peripheral β]

/-- **The observer is told of the access that an event completes, if there is one, with the
device as the event leaves it.** -/
theorem yields_handle (l : Link η β) (event : BusEvent) {handled : Handled β}
    (hh : l.target.device.handle l.bus event = handled) :
    Yields (Link.handle event : Action (Link η β) ω ε Unit) l () handled.device handled.bus
      (handled.notification.toList.map fun n => (handled.device, n)) := by
  rcases hn : handled.notification with _ | n
  · constructor
    · simp only [Action.run, handle, hh, hn]
    · simp only [Action.run, handle, hh, hn, Option.toList, List.map_nil, Observer.hear]
    · simp only [Outcome.reports, Action.run, handle, hh, hn, reports_messages, Option.toList,
        List.map_nil, Observer.hear]
  · obtain ⟨hresult, hstate, htrace⟩ :=
      notify_hears (ε := ε) ⟨handled.device, l.target.observer⟩ n
    constructor
    · simp only [Action.run, handle, hh, hn, hresult]
    · simp only [Action.run, handle, hh, hn, hstate, Option.toList, List.map_cons, List.map_nil]
    · simp only [Outcome.reports, Action.run, handle, hh, hn, List.filterMap_append,
        reports_messages, htrace, List.nil_append, Option.toList, List.map_cons, List.map_nil]

end Link

end SerialEeprom
