/-
# Actions

Whatever the library does to a state is an action: a function from the state to an outcome, which
holds the result or an error, the state afterwards, and a trace of what was handed out on the way.
Two things can be handed out: messages for the log, and reports, whose kind depends on who listens.

An error ends a sequence of actions but undoes nothing.  The state and the trace so far stay, as
they do when a call returns early; so a statement that a failed action changed nothing has to be
proved, and is not a matter of how actions are put together.

The trace is apart from the state, for two reasons.

* Two runs can be compared by what they leave and by what they say separately.  That nobody on the
  bus notices a call from inside is a statement about the trace, while the states differ.
* An action cannot look at what was said before it.  A message is never the reason for anything,
  which would be hard to see if the log were a part of the state.

Actions are a lawful monad, so sequences may be regrouped; but the proofs mostly go forward through
a sequence, with one lemma for a step that succeeds (`run_bind_of_ok`) and one for a step that does
not (`run_bind_of_error`).
-/
import SerialEeprom.Log

namespace SerialEeprom

/-- One thing handed out on the way: a message for the log, or a report of some kind `ω`. -/
inductive Emission (ω : Type) where
  | log (entry : LogEntry)
  | report (item : ω)
  deriving DecidableEq, Repr

namespace Emission

variable {ω : Type}

/-- The message, if it is one. -/
def log? : Emission ω → Option LogEntry
  | log entry => some entry
  | report _ => none

/-- The report, if it is one. -/
def report? : Emission ω → Option ω
  | log _ => none
  | report item => some item

end Emission

/-- What an action leaves.  The state and the trace are there whether the result is a value or an
error. -/
structure Outcome (σ ω ε α : Type) where
  result : Except ε α
  state : σ
  trace : List (Emission ω)

/-- A computation on a state `σ` that reports `ω`, may fail with `ε`, and else gives an `α`.  It
always ends, and always leaves a state. -/
def Action (σ ω ε α : Type) : Type :=
  σ → Outcome σ ω ε α

namespace Outcome

variable {σ ω ε α : Type}

/-- The messages of a trace, in order. -/
def logs (o : Outcome σ ω ε α) : List LogEntry :=
  o.trace.filterMap Emission.log?

/-- The reports of a trace, in order. -/
def reports (o : Outcome σ ω ε α) : List ω :=
  o.trace.filterMap Emission.report?

end Outcome

namespace Action

variable {σ τ ω ε δ α β : Type}

/-- Run an action on a state. -/
def run (a : Action σ ω ε α) (s : σ) : Outcome σ ω ε α :=
  a s

instance : Monad (Action σ ω ε) where
  pure a := fun s => ⟨.ok a, s, []⟩
  bind a f := fun s =>
    let first := a s
    match first.result with
    | .ok x =>
      let second := f x first.state
      { second with trace := first.trace ++ second.trace }
    | .error e => ⟨.error e, first.state, first.trace⟩

/-- The state as it is. -/
def get : Action σ ω ε σ :=
  fun s => ⟨.ok s, s, []⟩

/-- Change the state.  It cannot fail, and hands out nothing. -/
def modify (f : σ → σ) : Action σ ω ε Unit :=
  fun s => ⟨.ok (), f s, []⟩

/-- End with an error.  The state stays as it is, and whatever was handed out before is not taken
back. -/
def fail (e : ε) : Action σ ω ε α :=
  fun s => ⟨.error e, s, []⟩

/-- Hand out a message. -/
def log (entry : LogEntry) : Action σ ω ε Unit :=
  fun s => ⟨.ok (), s, [.log entry]⟩

/-- Hand out a report.  What it means is for those to know who run the action. -/
def report (item : ω) : Action σ ω ε Unit :=
  fun s => ⟨.ok (), s, [.report item]⟩

/-- A result found without looking at the state.  A function that cannot change anything is called
in this way from one that can. -/
def ofExcept (r : Except ε α) : Action σ ω ε α :=
  fun s => ⟨r, s, []⟩

/-- The same action with its errors seen as others, for a caller who has more ways to fail. -/
def mapError (f : ε → δ) (a : Action σ ω ε α) : Action σ ω δ α :=
  fun s =>
    let o := a s
    ⟨o.result.mapError f, o.state, o.trace⟩

/-- Run an action and go on whether it failed or not.  What it left before it failed is kept. -/
def attempt (a : Action σ ω ε α) : Action σ ω δ (Except ε α) :=
  fun s =>
    let o := a s
    ⟨.ok o.result, o.state, o.trace⟩

/-- An action on a part of the state.  The rest of the state is what `put` makes of it. -/
def zoom (part : σ → τ) (put : τ → σ → σ) (a : Action τ ω ε α) : Action σ ω ε α :=
  fun s =>
    let o := a (part s)
    ⟨o.result, put o.state s, o.trace⟩

/-- An action on a state of its own, which starts as it is given here and is given back at the end
if nothing failed. -/
def within (start : τ) (a : Action τ ω ε α) : Action σ ω ε (α × τ) :=
  fun s =>
    let o := a start
    ⟨o.result.map fun x => (x, o.state), s, o.trace⟩

/-! ## 1. What running a sequence does

The first action that fails decides; until then results are passed on and traces are joined. -/

@[simp] theorem run_pure (x : α) (s : σ) : (pure x : Action σ ω ε α).run s = ⟨.ok x, s, []⟩ := rfl

theorem run_bind_of_ok {a : Action σ ω ε α} {f : α → Action σ ω ε β} {s t : σ} {x : α}
    {trace : List (Emission ω)} (h : a.run s = ⟨.ok x, t, trace⟩) :
    (a >>= f).run s = { (f x).run t with trace := trace ++ ((f x).run t).trace } := by
  simp only [run] at h ⊢
  simp only [bind, h]

theorem run_bind_of_error {a : Action σ ω ε α} {f : α → Action σ ω ε β} {s t : σ} {e : ε}
    {trace : List (Emission ω)} (h : a.run s = ⟨.error e, t, trace⟩) :
    (a >>= f).run s = ⟨.error e, t, trace⟩ := by
  simp only [run] at h ⊢
  simp only [bind, h]

/-- Looking at the state changes nothing.  So what an action sees of its state can be taken as
given. -/
theorem run_get_bind (f : σ → Action σ ω ε β) (s : σ) : (get >>= f).run s = (f s).run s := rfl

instance : LawfulMonad (Action σ ω ε) := by
  refine LawfulMonad.mk' _ ?_ ?_ ?_
  · intro α a
    funext s
    change (bind a pure : Action σ ω ε α) s = a s
    rcases h : a s with ⟨_ | x, t, trace⟩
    · simp only [bind, h]
    · simp only [bind, h, pure, List.append_nil]
  · intro α β x f
    rfl
  · intro α β γ a f g
    funext s
    rcases h : a s with ⟨_ | x, t, trace⟩
    · simp only [bind, h]
    · rcases hf : f x t with ⟨_ | y, u, more⟩
      · simp only [bind, h, hf]
      · simp only [bind, h, hf, List.append_assoc]

@[simp] theorem ofExcept_ok (x : α) : (ofExcept (.ok x) : Action σ ω ε α) = pure x := rfl

@[simp] theorem ofExcept_error (e : ε) : (ofExcept (.error e) : Action σ ω ε α) = fail e := rfl

/-- A message at the end changes neither the result nor the state.  An action and its logged form
differ in their trace only. -/
theorem run_log_after (a : Action σ ω ε Unit) (entry : LogEntry) (s : σ) :
    ((a >>= fun _ => log entry).run s).result = (a.run s).result ∧
      ((a >>= fun _ => log entry).run s).state = (a.run s).state := by
  rcases h : a.run s with ⟨_ | x, t, trace⟩
  · rw [run_bind_of_error h]
    exact ⟨rfl, rfl⟩
  · rw [run_bind_of_ok h]
    exact ⟨rfl, rfl⟩

theorem run_map (f : α → β) (a : Action σ ω ε α) (s : σ) :
    (f <$> a).run s = ⟨(a.run s).result.map f, (a.run s).state, (a.run s).trace⟩ := by
  rw [← bind_pure_comp]
  rcases h : a.run s with ⟨_ | x, t, trace⟩
  · exact run_bind_of_error h
  · rw [run_bind_of_ok h, run_pure, List.append_nil]
    rfl

end Action

end SerialEeprom
