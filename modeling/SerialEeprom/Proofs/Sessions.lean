/-
# Sessions without the lines that fail

A session goes on after a line that fails, and what the line did before it failed stays done.  This
module shows that there is no such thing unless the bus failed: a line that cannot be read asks for
nothing, and an access from inside that is out of bounds is refused as a whole.  Such a line leaves
the device, the bus with its pending fault, and all that was printed as they were, so it may be left
out, and the lines after it do what they did.

An action is clean if it has done nothing whenever it fails with anything but a fault of the bus
(`Clean`).  Clean actions may be followed by what cannot fail, such as printing, and still be clean;
they may not be followed by each other.  So each instruction is one action that may fail, with
printing behind it (`Instruction.clean`).  Calls of a controller are clean because they fail with
faults of the bus only, which is known from their procedures.

Which lines are left out is said by marks on them (`Script`).  A marked line has to fail in the
session with all lines, in the place where it stands there, which depends on the lines before it.
The numbers that messages give to lines do change when lines are left out, and messages are not
compared; what is printed and what is left are.

A session may also end early, at input that is no text.  Then lines behind are not run, and none of
them can be marked.

Main statement: the outcome of a session, and that leaving out any of its lines that failed with
anything but a fault of the bus changes nothing but the number of lines that failed
(`session_without_failed_lines`).
-/
import SerialEeprom.Command.Invocation
import SerialEeprom.Proofs.Line

namespace SerialEeprom.Command

open SerialEeprom.Text

/-! ## 1. Actions that fail cleanly

A step lemma for sequences, and then one for each kind of instruction. -/

/-- The line failed on the bus, and not for what it says.  Such a failure spends a fault, which the
next line would notice. -/
def LineError.isPeripheral : LineError → Bool
  | .eeprom (.peripheral _) => true
  | _ => false

section

variable {α γ : Type}

/-- It never fails. -/
def Total (a : Action Bench Output EepromError α) : Prop :=
  ∀ s, ∃ x, (a.run s).result = .ok x

/-- If it fails with anything but a fault of the bus, it has done nothing.  The state is the whole
bench, with the bus and its pending fault. -/
def Clean (a : Action Bench Output EepromError α) : Prop :=
  ∀ s e, (a.run s).result = .error e →
    (∃ fault, e = .peripheral fault) ∨ ((a.run s).state = s ∧ (a.run s).reports = [])

theorem Total.clean {a : Action Bench Output EepromError α} (h : Total a) : Clean a := by
  intro s e he
  obtain ⟨x, hx⟩ := h s
  rw [hx] at he
  cases he

theorem Total.bind {a : Action Bench Output EepromError α}
    {f : α → Action Bench Output EepromError γ} (ha : Total a) (hf : ∀ x, Total (f x)) :
    Total (a >>= f) := by
  intro s
  obtain ⟨x, hx⟩ := ha s
  obtain ⟨y, hy⟩ := hf x (a.run s).state
  have hrun : a.run s = ⟨.ok x, (a.run s).state, (a.run s).trace⟩ := by rw [← hx]
  exact ⟨y, (congrArg Outcome.result (Action.run_bind_of_ok hrun)).trans hy⟩

/-- What cannot fail may follow.  What could fail may not, since the first action would have been
done by then. -/
theorem Clean.bind {a : Action Bench Output EepromError α}
    {f : α → Action Bench Output EepromError γ} (ha : Clean a) (hf : ∀ x, Total (f x)) :
    Clean (a >>= f) := by
  intro s e he
  rcases hr : a.run s with ⟨_ | x, t, trace⟩
  · rename_i cause
    rw [Action.run_bind_of_error hr] at he ⊢
    have hclean := ha s cause (congrArg Outcome.result hr)
    rw [hr] at hclean
    obtain rfl := Except.error.inj he
    exact hclean
  · obtain ⟨y, hy⟩ := hf x t
    rw [Action.run_bind_of_ok hr] at he
    rw [hy] at he
    cases he

end

theorem total_printLine (text : String) : Total (printLine text) :=
  fun _ => ⟨(), rfl⟩

theorem total_printAll : ∀ lines : List (List Char), Total (printAll lines)
  | [] => fun _ => ⟨(), rfl⟩
  | _ :: rest => Total.bind (fun _ => ⟨(), rfl⟩) fun _ => total_printAll rest

/-- A call of a controller fails with faults of the bus only.  So there is nothing to show of the
state. -/
theorem clean_call {α : Type} {p : Procedure α} (h : p.Addressed) :
    Clean (p.call : Controller.Call Announcer Output α) := by
  intro s e he
  rw [(p.run_call s).1] at he
  obtain ⟨fault, -, hfault⟩ := h.result_eq_error_iff.1 he
  exact .inl ⟨fault, hfault⟩

/-- An access from inside that is out of bounds is refused as a whole.  Nothing was stored when it
fails. -/
theorem clean_write (address : UInt16) (bytes : List UInt8) :
    Clean (Link.onDevice (Device.write address bytes)) := by
  intro s e he
  refine .inr ?_
  simp only [Action.run, Link.onDevice, Action.zoom, Device.write, Outcome.reports] at he ⊢
  rcases hw : s.target.device.store.write address bytes with access | after
  · exact ⟨rfl, rfl⟩
  · rw [hw] at he
    cases he

theorem clean_read (address length : UInt16) :
    Clean (Link.onDevice (Device.read address length)) := by
  intro s e he
  refine .inr ⟨rfl, ?_⟩
  simp only [Action.run, Link.onDevice, Action.zoom, Device.read, Device.found, Outcome.reports]
  exact Link.reports_messages _

/-- **An instruction is clean.**  Each is one action that may fail, and at most prints behind it. -/
theorem Instruction.clean (i : Instruction) : Clean i.run := by
  cases i with
  | send bytes =>
    rw [run, ← Procedure.call_send]
    exact (clean_call (Procedure.send_addressed bytes)).bind fun _ => total_printLine _
  | receive length =>
    rw [run, ← Procedure.call_receive]
    exact (clean_call (Procedure.receive_addressed _)).bind fun _ => total_printLine _
  | seek address =>
    rw [run, ← Procedure.call_seek]
    exact clean_call (Procedure.seek_addressed address)
  | put address bytes =>
    rw [run, Controller.write, ← Procedure.call_send]
    exact (clean_call (Procedure.send_addressed _)).bind fun _ => fun _ => ⟨(), rfl⟩
  | get address length =>
    rw [run, ← Procedure.call_read]
    exact (clean_call (Procedure.read_addressed address _)).bind fun _ => total_printLine _
  | store address bytes => exact clean_write address bytes
  | fetch address length => exact (clean_read address length).bind fun _ => total_printLine _
  | fail fault => exact Total.clean fun _ => ⟨(), rfl⟩
  | cursor => exact Total.clean fun _ => ⟨(), rfl⟩
  | dump => exact Total.clean fun s => total_printAll _ s

/-- **A line that fails with anything but a fault of the bus leaves no trace.**  It could not be
read, or its instruction is clean. -/
theorem runLine_failed {line : String} {s : Bench} {e : LineError}
    (he : ((runLine line).run s).result = .error e) (hp : e.isPeripheral = false) :
    ((runLine line).run s).state = s ∧ ((runLine line).run s).reports = [] := by
  unfold runLine at he ⊢
  split at he
  · exact ⟨rfl, rfl⟩
  · exact ⟨rfl, rfl⟩
  · rename_i instruction _
    rcases hr : (instruction.run.run s).result with cause | u
    · have hcause : (Except.error (.eeprom cause) : Except LineError Unit) = .error e :=
        (congrArg (Except.mapError LineError.eeprom) hr).symm.trans he
      obtain rfl := Except.error.inj hcause
      rcases instruction.clean s cause hr with ⟨fault, rfl⟩ | hclean
      · cases hp
      · exact hclean
    · have hok := (congrArg (Except.mapError LineError.eeprom) hr).symm.trans he
      cases hok

/-! ## 2. Line after line

The loop over the lines, without its counters: they can be found from the outcomes. -/

/-- What comes of each line that is run.  A line that cannot be decoded ends the session. -/
def outcomes (s : Bench) : List InputLine → List (Outcome Bench Output LineError Unit)
  | .readable text :: rest =>
    (runLine text).run s :: outcomes ((runLine text).run s).state rest
  | _ => []

/-- Every line is run, whatever lines failed before it.  A line that cannot be decoded would end the
session, so there must be none. -/
theorem length_outcomes : ∀ (lines : List InputLine) (s : Bench),
    (∀ line ∈ lines, line ≠ .undecodable) → (outcomes s lines).length = lines.length
  | [], _, _ => rfl
  | .undecodable :: _, _, h => absurd rfl (h _ List.mem_cons_self)
  | .readable _ :: rest, _, h =>
    congrArg Nat.succ
      (length_outcomes rest _ fun line hl => h line (List.mem_cons_of_mem _ hl))

/-- What they leave. -/
def left (s : Bench) (all : List (Outcome Bench Output LineError Unit)) : Bench :=
  all.foldl (fun _ o => o.state) s

/-- How many lines failed.  Lines that ask for nothing cannot fail, but count as lines. -/
def failures (all : List (Outcome Bench Output LineError Unit)) : Nat :=
  all.countP fun o => !o.result.isOk

theorem failures_of_failed {o : Outcome Bench Output LineError Unit} {e : LineError}
    (h : o.result = .error e) (all : List (Outcome Bench Output LineError Unit)) :
    failures (o :: all) = failures all + 1 :=
  List.countP_cons_of_pos (by rw [h]; rfl)

theorem failures_of_passed {o : Outcome Bench Output LineError Unit} (h : o.result = .ok ())
    (all : List (Outcome Bench Output LineError Unit)) : failures (o :: all) = failures all :=
  List.countP_cons_of_neg (by rw [h]; exact Bool.noConfusion)

/-- What running lines prints, leaves and gives.  The counters of the loop are found again: where it
started and how many lines failed. -/
theorem runLines_run : ∀ (lines : List InputLine) (number failed : Nat) (s : Bench),
    ((runLines number failed lines).run s).reports
        = (outcomes s lines).flatMap Outcome.reports ∧
      ((runLines number failed lines).run s).state = left s (outcomes s lines) ∧
      ((runLines number failed lines).run s).result
        = if .undecodable ∈ lines then .error .undecodable
          else .ok (failed + failures (outcomes s lines))
  | [], number, failed, s => ⟨rfl, rfl, rfl⟩
  | .undecodable :: rest, number, failed, s => ⟨rfl, rfl, (if_pos List.mem_cons_self).symm⟩
  | .readable text :: rest, number, failed, s => by
    let o := (runLine text).run s
    have hattempt : ((runLine text).attempt : Action Bench Output Failure _).run s
        = ⟨.ok o.result, o.state, o.trace⟩ := rfl
    have hmem : InputLine.undecodable ∈ .readable text :: rest ↔ .undecodable ∈ rest := by
      simp only [List.mem_cons, reduceCtorEq, false_or]
    have hrun : (runLines number failed (.readable text :: rest)).run s = _ :=
      Action.run_bind_of_ok hattempt
    rw [hrun]
    simp only [outcomes, hmem, List.flatMap_cons]
    rcases hr : o.result with e | u
    · obtain ⟨hreports, hstate, hresult⟩ := runLines_run rest (number + 1) (failed + 1) o.state
      refine ⟨?_, hstate, hresult.trans ?_⟩
      · rw [← hreports]
        exact List.filterMap_append
      · rw [failures_of_failed hr, Nat.add_assoc, Nat.add_comm 1]
    · obtain ⟨hreports, hstate, hresult⟩ := runLines_run rest (number + 1) failed o.state
      refine ⟨?_, hstate, hresult.trans ?_⟩
      · rw [← hreports]
        exact List.filterMap_append
      · rw [failures_of_passed hr]

/-! ## 3. A session -/

/-- A device whose bus came up.  It is where a session starts, with the announcer that sessions
have. -/
def attached (d : Device) : Bench :=
  ⟨⟨d, some .terse⟩, { enabled := some d.config.bus }⟩

/-- A set-up that made a device was accepted.  It never changes, so it still would be. -/
theorem validate_of_reachable {config : DeviceConfig} {d : Device} (h : Reachable config d) :
    config.validate = .ok () := by
  induction h with
  | created hc => exact (create_eq_ok_iff.1 hc).1
  | moved _ m ih => exact ih

theorem attach_run {config : DeviceConfig} {d : Device} (h : Reachable config d) :
    (Link.attach.mapError .eeprom : Action Bench Output Failure Unit).run (bench d (some .terse))
      = ⟨.ok (), attached d, [.log (.enabling d.config.bus), .log (.listening d.config)]⟩ := by
  have haddress : ¬ 0x7f < d.config.bus.address := by
    rw [h.sound.config_eq]
    exact UInt8.not_lt.2 (DeviceConfig.validate_eq_ok_iff.1 (validate_of_reachable h)).1
  have henable : Peripheral.enable ({} : SimulatedBus) d.config.bus
      = (.ok (), { enabled := some d.config.bus }) := by
    simp only [Peripheral.enable, SimulatedBus.enable, Bool.false_eq_true, if_false,
      if_neg haddress]
  simp only [Action.run, Action.mapError, Link.attach, Action.zoom, Device.attach, bench, henable]
  rfl

/-- How a session ends of which so many lines failed. -/
def ending (failed : Nat) : Except Failure Unit :=
  if failed = 0 then .ok () else .error (.linesFailed failed)

/-- The end of a session only tells how many lines failed. -/
theorem run_ending (failed : Nat) (s : Bench) :
    (if failed ≠ 0 then Action.fail (.linesFailed failed) else pure () :
      Action Bench Output Failure Unit).run s = ⟨ending failed, s, []⟩ := by
  by_cases hf : failed = 0
  · rw [if_neg (not_not_intro hf), ending, if_pos hf]
    rfl
  · rw [if_pos hf, ending, if_neg hf]
    rfl

/-- **What a session prints, leaves and gives.**  The bus of a reachable device always comes up, as
its set-up was accepted. -/
theorem session_run {config : DeviceConfig} {d : Device} (h : Reachable config d)
    (input : List InputLine) :
    let all := outcomes (attached d) input
    let outcome := (session input).run (bench d (some .terse))
    outcome.reports = all.flatMap Outcome.reports ∧ outcome.state = left (attached d) all ∧
      outcome.result
        = if .undecodable ∈ input then .error .undecodable else ending (failures all) := by
  intro all outcome
  let rest : Action Bench Output Failure Unit := runLines 1 0 input >>= fun failed =>
    if failed ≠ 0 then Action.fail (.linesFailed failed) else pure ()
  have hsession : outcome = _ := Action.run_bind_of_ok (attach_run h)
  suffices hrest : (rest.run (attached d)).reports = all.flatMap Outcome.reports ∧
      (rest.run (attached d)).state = left (attached d) all ∧
      (rest.run (attached d)).result
        = if .undecodable ∈ input then .error .undecodable else ending (failures all) by
    rw [hsession]
    exact hrest
  obtain ⟨hreports, hstate, hresult⟩ := runLines_run input 1 0 (attached d)
  rw [Nat.zero_add] at hresult
  rcases hr : (runLines 1 0 input).run (attached d) with ⟨failure | failed, t, trace⟩
  · -- Running lines fails only where the input is no text, and then nothing is counted.
    have hrest : rest.run (attached d) = _ := Action.run_bind_of_error hr
    rw [hr] at hreports hstate hresult
    rw [hrest]
    refine ⟨hreports, hstate, ?_⟩
    by_cases hu : .undecodable ∈ input
    · rw [if_pos hu] at hresult ⊢
      exact congrArg Except.error (Except.error.inj hresult)
    · rw [if_neg hu] at hresult
      cases hresult
  · have hrest : rest.run (attached d) = _ := Action.run_bind_of_ok hr
    rw [hr] at hreports hstate hresult
    rw [hrest, run_ending]
    by_cases hu : .undecodable ∈ input
    · rw [if_pos hu] at hresult
      cases hresult
    · rw [if_neg hu] at hresult ⊢
      refine ⟨?_, hstate, congrArg ending (Except.ok.inj hresult)⟩
      rw [← hreports]
      exact congrArg _ (List.append_nil trace)

/-! ## 4. Lines left out

By induction over the script, in any state of the bench. -/

/-- The lines of a session, some of which are marked. -/
abbrev Script := List (InputLine × Bool)

namespace Script

/-- All lines.  This is the session as it was written. -/
def whole (script : Script) : List InputLine :=
  script.map Prod.fst

/-- The lines that are not marked.  They keep their order. -/
def kept (script : Script) : List InputLine :=
  whole (script.filter fun l => !l.2)

/-- How many are marked. -/
def marks (script : Script) : Nat :=
  script.countP Prod.snd

/-- Each line that is marked fails when all lines are run, and not with a fault of the bus.  Marks
say nothing about lines that are not marked, which may fail too. -/
def MarksFailed (script : Script) (s : Bench) : Prop :=
  ∀ (i : Nat) (line : InputLine), script[i]? = some (line, true) →
    ∃ (o : Outcome Bench Output LineError Unit) (e : LineError),
      (outcomes s (whole script))[i]? = some o ∧ o.result = .error e ∧ e.isPeripheral = false

variable {s : Bench} {script : Script}

theorem MarksFailed.tail {text : String} {marked : Bool}
    (h : MarksFailed ((.readable text, marked) :: script) s) :
    MarksFailed script ((runLine text).run s).state :=
  fun i line hi => h (i + 1) line hi

/-- Where no line is run, none is marked.  A mark on a line that is not run would be a promise about
nothing. -/
theorem MarksFailed.unmarked (h : MarksFailed script s) (hnone : outcomes s (whole script) = []) :
    ∀ l ∈ script, l.2 = false := by
  rintro ⟨line, marked⟩ hl
  obtain ⟨i, hi⟩ := List.getElem?_of_mem hl
  cases marked with
  | false => rfl
  | true =>
    obtain ⟨o, e, ho, -⟩ := h i line hi
    rw [hnone] at ho
    cases ho

/-- **Lines that failed may be left out.**  By induction over the script: a marked line leaves the
bench to the next line as it found it. -/
theorem outcomes_kept : ∀ (script : Script) {s : Bench}, MarksFailed script s →
    let all := outcomes s (whole script)
    let few := outcomes s (kept script)
    few.flatMap Outcome.reports = all.flatMap Outcome.reports ∧ left s few = left s all ∧
      failures all = failures few + marks script
  | [], s, _ => ⟨rfl, rfl, rfl⟩
  | (.undecodable, marked) :: script, s, h => by
    intro all few
    -- The session ends here: no line from here on is run, so none has failed and none is marked.
    have hunmarked := h.unmarked rfl
    have hfilter : ((InputLine.undecodable, marked) :: script).filter (fun l => !l.2)
        = (.undecodable, marked) :: script :=
      List.filter_eq_self.2 fun l hl => by rw [hunmarked l hl]; rfl
    have hkept : kept ((.undecodable, marked) :: script)
        = whole ((.undecodable, marked) :: script) := congrArg whole hfilter
    have hmarks : marks ((.undecodable, marked) :: script) = 0 :=
      List.countP_eq_zero.2 fun l hl => by rw [hunmarked l hl]; exact Bool.noConfusion
    simp only [few, hkept, hmarks]
    exact ⟨rfl, rfl, rfl⟩
  | (.readable text, true) :: script, s, h => by
    intro all few
    obtain ⟨o, e, ho, hresult, hperipheral⟩ := h 0 (.readable text) rfl
    obtain rfl : (runLine text).run s = o := Option.some.inj ho
    obtain ⟨hstate, hsilent⟩ := runLine_failed hresult hperipheral
    -- The lines behind it are run in the same state with it and without it.
    have hrest := h.tail
    rw [hstate] at hrest
    obtain ⟨hreports, hleft, hfailures⟩ := outcomes_kept script hrest
    have hall : all = (runLine text).run s :: outcomes s (whole script) :=
      congrArg (fun t => (runLine text).run s :: outcomes t (whole script)) hstate
    have hmarks : marks ((.readable text, true) :: script) = marks script + 1 :=
      List.countP_cons_of_pos rfl
    rw [hall, hmarks, failures_of_failed hresult, List.flatMap_cons, hsilent, hfailures]
    exact ⟨hreports, hleft.trans (congrArg (left · _) hstate.symm), Nat.add_assoc ..⟩
  | (.readable text, false) :: script, s, h => by
    intro all few
    let o := (runLine text).run s
    obtain ⟨hreports, hleft, hfailures⟩ := outcomes_kept script h.tail
    have hall : all = o :: outcomes o.state (whole script) := rfl
    have hfew : few = o :: outcomes o.state (kept script) := rfl
    have hmarks : marks ((.readable text, false) :: script) = marks script :=
      List.countP_cons_of_neg Bool.noConfusion
    rw [hall, hfew, hmarks]
    refine ⟨congrArg (o.reports ++ ·) hreports, hleft, ?_⟩
    rcases hr : o.result with e | u
    · rw [failures_of_failed hr, failures_of_failed hr, hfailures, Nat.add_right_comm]
    · rw [failures_of_passed hr, failures_of_passed hr, hfailures]

theorem mem_whole_of_mem_kept {line : InputLine} (h : line ∈ kept script) :
    line ∈ whole script := by
  obtain ⟨l, hl, rfl⟩ := List.mem_map.1 h
  exact List.mem_map_of_mem (List.mem_filter.1 hl).1

end Script

/-- **Lines that fail leave no trace, unless it was the bus that failed.**  Without some of them, a
session prints the same and leaves the same.  With them or without, every line is run, and the
session ends in the number of those that fail. -/
theorem session_without_failed_lines {config : DeviceConfig} {d : Device}
    (h : Reachable config d) (script : Script) (hs : Script.MarksFailed script (attached d)) :
    let start := bench d (some .terse)
    let all := (session (Script.whole script)).run start
    let few := (session (Script.kept script)).run start
    let each := outcomes (attached d) (Script.whole script)
    let failed := failures each
    few.reports = all.reports ∧ few.state = all.state ∧
      ((∀ line ∈ Script.whole script, line ≠ .undecodable) →
        each.length = (Script.whole script).length ∧
        all.reports = each.flatMap Outcome.reports ∧ all.state = left (attached d) each ∧
        all.result = ending failed ∧ few.result = ending (failed - Script.marks script) ∧
        Script.marks script ≤ failed ∧
        (Failure.linesFailed failed).message = toString failed ++ " command(s) failed") := by
  intro start all few each failed
  obtain ⟨hreports, hstate, hresult⟩ := session_run h (Script.whole script)
  obtain ⟨hreports', hstate', hresult'⟩ := session_run h (Script.kept script)
  obtain ⟨hsame, hleft, hfailures⟩ := Script.outcomes_kept script hs
  have hmarks : failures (outcomes (attached d) (Script.kept script))
      = failed - Script.marks script := (Nat.sub_eq_of_eq_add hfailures).symm
  refine ⟨(hreports'.trans hsame).trans hreports.symm, (hstate'.trans hleft).trans hstate.symm, ?_⟩
  intro hreadable
  have hkept : .undecodable ∉ Script.kept script := fun hu =>
    hreadable _ (Script.mem_whole_of_mem_kept hu) rfl
  have hwhole : .undecodable ∉ Script.whole script := fun hu => hreadable _ hu rfl
  rw [if_neg hwhole] at hresult
  rw [if_neg hkept, hmarks] at hresult'
  have hle : Script.marks script ≤ failed := by
    rw [show failed = _ from hfailures]
    exact Nat.le_add_left ..
  exact ⟨length_outcomes _ _ hreadable, hreports, hstate, hresult, hresult', hle, rfl⟩

/-- A word that is no command, and a store out of bounds, between a write and a read. -/
theorem session_without_unknown_command :
    let config : DeviceConfig := { size := 4 }
    let d := Device.fresh config
    let script : Script :=
      [(.readable "put 1 aa", false), (.readable "bogus", true), (.readable "store 3 1 2", true),
        (.readable "fetch", false), (.readable "get 1 1", false)]
    let few := (session (Script.kept script)).run (bench d (some .terse))
    let all := (session (Script.whole script)).run (bench d (some .terse))
    Reachable config d ∧ Script.MarksFailed script (attached d) ∧ few.reports = all.reports ∧
      few.state = all.state ∧ all.result = .error (.linesFailed 3) ∧
      few.result = .error (.linesFailed 1) := by
  intro config d script few all
  have hd : Reachable config d := .of_moves rfl []
  have hs : Script.MarksFailed script (attached d) := by
    intro i line hi
    match i, hi with
    | 0, hi => cases hi
    | 1, hi =>
      cases hi
      exact ⟨_, .unknownInstruction "bogus", rfl, rfl, rfl⟩
    | 2, hi =>
      cases hi
      exact ⟨_, .eeprom (.outOfBounds ⟨3, 2, 4⟩), rfl, rfl, rfl⟩
    | 3, hi => cases hi
    | 4, hi => cases hi
  obtain ⟨hreports, hstate, hends⟩ := session_without_failed_lines hd script hs
  obtain ⟨-, -, -, hall, hfew, -⟩ := hends (by decide)
  have hfailed : failures (outcomes (attached d) (Script.whole script)) = 3 := by decide +kernel
  rw [hfailed] at hall hfew
  exact ⟨hd, hs, hreports, hstate, hall, hfew⟩

end SerialEeprom.Command
