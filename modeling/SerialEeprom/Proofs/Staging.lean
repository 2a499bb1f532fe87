/-
# Requests and their completions

A request of the far side is served in two halves.  What links them is `Device.staged`, which
speaks of one event only: whatever the device handles next, be it the completion or anything else,
clears it.  So `staged` is a memory of the last event, and accesses from inside do not disturb it
(`staged_after_iff`).

The memory is exact.  Something is staged after an event exactly if the event was a request that the
peripheral accepted, and then it says what was accepted (`staged_handle_iff`); so a question about
the past, whether the last event was an accepted request, is a question about the present.  The
statements about completions are all answered that way: what is not staged cannot be completed, and
whatever completes something leaves nothing staged.

That the memory is this short has a price.  A completion that comes in the wrong direction, from
another peripheral or from one that is confused, finds a buffer that is not its own and puts it
away.  The transaction that was open is then lost, without a message that says so: the message tells
of the completion that came, not of the one that will not be served.

Main statements.

* A completion has an effect only if the last event before it was a request in its direction that
  the peripheral accepted, and a read is then notified once, with no more bytes than were offered;
  no request has two such completions, and none comes after a fault, a refused request or another
  completion (`completion_answers_request`).
* The other side of it: a completion in the wrong direction has no effect of its own, but it takes
  the staged buffer with it, and the completion that would have been served is not
  (`stray_completion_drops_staged`).
-/
import SerialEeprom.Proofs.Accounts
import SerialEeprom.Proofs.Addressed

namespace SerialEeprom

variable {config : DeviceConfig} {d : Device} {m : Move} {moves : List Move} {s : Staged}

namespace Staged

/-- The end of the transaction that a buffer is staged for.  The count is what the peripheral
claims, whatever was staged. -/
def completion : Staged → Nat → BusEvent
  | .receive => .writeDone
  | .transmit _ => .readDone

/-- The end of a transaction in the other direction.  Such an event may come from another bus, or
from a peripheral that lost count. -/
def stray : Staged → Nat → BusEvent
  | .receive => .readDone
  | .transmit _ => .writeDone

end Staged

namespace Device

/-! ## 1. What is staged

Each handler leaves something staged or not, and only requests do. -/

/-- The move is a request, and the peripheral accepts what the device asks of it: to make room for
a write, or to take these many bytes for a read. -/
inductive Accepted (d : Device) : Move → Staged → Prop
  | receive {β : Type} [Peripheral β] {bus : β} {room : Nat} :
    d.calls bus .writeRequested = [.prepareReceive room] →
      (Peripheral.prepareReceive bus room).1 = .ok () →
        Accepted d (.event bus .writeRequested) .receive
  | transmit {β : Type} [Peripheral β] {bus : β} {bytes : List UInt8} :
    d.calls bus .readRequested = [.offer bytes] →
      (Peripheral.offer bus bytes).1 = .ok () →
        Accepted d (.event bus .readRequested) (.transmit bytes.length)

theorem staged_opened_iff {staged : Staged} {refused : String → LogEntry}
    {answer : Except String Unit} :
    (d.opened staged refused answer).device.staged = some s ↔ s = staged ∧ answer = .ok () := by
  cases answer with
  | ok _ => exact ⟨fun h => ⟨(Option.some.inj h).symm, rfl⟩, fun h => congrArg some h.1.symm⟩
  | error reason =>
    constructor
    · intro h; cases h
    · rintro ⟨-, h⟩; cases h

theorem staged_closeRead {β : Type} (d : Device) (bus : β) (sent : Nat) :
    (d.closeRead bus sent).device.staged = none := by
  unfold closeRead
  split
  · rfl
  · rfl

section Event

variable {β : Type} [Peripheral β]

theorem staged_openWrite_iff (d : Device) (bus : β) :
    (d.openWrite bus).device.staged = some s ↔
      s = .receive ∧ (Peripheral.prepareReceive bus d.scratch.length).1 = .ok () := by
  rw [toServed_openWrite, staged_opened_iff]

theorem staged_openRead_iff (d : Device) (bus : β) :
    let bytes := d.store.slice d.cursor d.scratch.length
    (d.openRead bus).device.staged = some s ↔
      s = .transmit bytes.length ∧ (Peripheral.offer bus bytes).1 = .ok () := by
  rw [toServed_openRead, staged_opened_iff]

theorem staged_closeWrite (d : Device) (bus : β) (received : Nat) :
    (d.closeWrite bus received).device.staged = none := by
  by_cases hs : d.staged = some .receive
  · rcases closeWrite_cases hs bus received with
      ⟨log, -, hserved⟩ | ⟨address, -, -, hserved⟩ | ⟨address, payload, -, hp, -, hserved⟩
    · rw [hserved]
    · rw [hserved]
    · rw [hserved, storePayload, if_neg hp]
  · rw [closeWrite_of_stray hs]

/-- **After an event there is staged what it is a request for, if the request was accepted, and
nothing else.** -/
theorem staged_handle_iff (d : Device) (bus : β) (event : BusEvent) :
    (d.handle bus event).device.staged = some s ↔ d.Accepted (.event bus event) s := by
  cases event with
  | writeRequested =>
    refine (d.staged_openWrite_iff bus).trans ⟨?_, ?_⟩
    · rintro ⟨rfl, hok⟩
      exact .receive (d.calls_eq bus .writeRequested) hok
    · intro h
      cases h with
      | receive hcalls hok =>
        rw [calls_eq, asked, List.cons.injEq, BusCall.prepareReceive.injEq] at hcalls
        exact ⟨rfl, hcalls.1 ▸ hok⟩
  | readRequested =>
    refine (d.staged_openRead_iff bus).trans ⟨?_, ?_⟩
    · rintro ⟨rfl, hok⟩
      exact .transmit (d.calls_eq bus .readRequested) hok
    · intro h
      cases h with
      | transmit hcalls hok =>
        rw [calls_eq, asked, List.cons.injEq, BusCall.offer.injEq] at hcalls
        exact ⟨congrArg _ (congrArg _ hcalls.1.symm), hcalls.1 ▸ hok⟩
  | writeDone received =>
    simp only [handle, staged_closeWrite]
    constructor
    · intro h; cases h
    · intro h; cases h
  | readDone sent =>
    simp only [handle, staged_closeRead]
    constructor
    · intro h; cases h
    · intro h; cases h
  | fault fault =>
    constructor
    · intro h; cases h
    · intro h; cases h

end Event

theorem staged_move_iff (hm : m.isEvent = true) :
    (d.move m).device.staged = some s ↔ d.Accepted m s := by
  cases m with
  | event bus event => exact d.staged_handle_iff bus event
  | _ => cases hm

/-- Accesses from inside leave staged what is.  So they may come between a request and its
completion. -/
theorem staged_inside (d : Device) (hm : m.isEvent = false) :
    (d.move m).device.staged = d.staged := by
  obtain ⟨store, log, hmove⟩ := d.move_inside hm
  rw [hmove d rfl]

/-! ## 2. The last event

Looking back over a list of moves, past those from inside. -/

/-- The last event of these moves was a request, and it was accepted.  Behind it there may be moves
from inside, and nothing else. -/
def Awaits (d : Device) (moves : List Move) (s : Staged) : Prop :=
  ∃ (earlier : List Move) (request : Move) (later : List Move),
    moves = earlier ++ request :: later ∧ (d.after earlier).Accepted request s ∧
      ∀ m ∈ later, m.isEvent = false

theorem awaits_nil (d : Device) (s : Staged) : ¬ d.Awaits [] s := by
  rintro ⟨earlier, request, later, hmoves, -⟩
  exact List.append_ne_nil_of_right_ne_nil earlier (List.cons_ne_nil request later) hmoves.symm

theorem awaits_cons_iff :
    d.Awaits (m :: moves) s ↔
      (d.Accepted m s ∧ ∀ k ∈ moves, k.isEvent = false) ∨ (d.move m).device.Awaits moves s := by
  constructor
  · rintro ⟨_ | ⟨first, earlier⟩, request, later, hmoves, haccepted, hlater⟩
    · obtain ⟨rfl, rfl⟩ := List.cons.inj hmoves
      exact .inl ⟨haccepted, hlater⟩
    · obtain ⟨rfl, rfl⟩ := List.cons.inj hmoves
      exact .inr ⟨earlier, request, later, rfl, haccepted, hlater⟩
  · rintro (⟨haccepted, hlater⟩ | ⟨earlier, request, later, rfl, haccepted, hlater⟩)
    · exact ⟨[], m, moves, rfl, haccepted, hlater⟩
    · exact ⟨m :: earlier, request, later, rfl, haccepted, hlater⟩

/-- **What is staged is what the last event was accepted for**, or what was staged before if there
was no event. -/
theorem staged_after_iff : ∀ (moves : List Move) {d : Device},
    (d.after moves).staged = some s ↔
      d.Awaits moves s ∨ (d.staged = some s ∧ ∀ m ∈ moves, m.isEvent = false)
  | [], d => by
    refine ⟨fun h => .inr ⟨h, fun _ hm => absurd hm List.not_mem_nil⟩, ?_⟩
    rintro (h | ⟨h, -⟩)
    · exact absurd h (d.awaits_nil s)
    · exact h
  | m :: moves, d => by
    refine (staged_after_iff moves (d := (d.move m).device)).trans ?_
    rw [awaits_cons_iff, List.forall_mem_cons]
    -- An event settles what is staged by itself; any other move hands on what was staged before.
    cases hm : m.isEvent with
    | true =>
      rw [staged_move_iff hm]
      constructor
      · rintro (h | h)
        · exact .inl (.inr h)
        · exact .inl (.inl h)
      · rintro ((h | h) | ⟨-, h, -⟩)
        · exact .inr h
        · exact .inl h
        · cases h
    | false =>
      rw [d.staged_inside hm]
      have hnot : ¬ d.Accepted m s := by
        intro h
        cases h with
        | receive => cases hm
        | transmit => cases hm
      constructor
      · rintro (h | ⟨h, hmoves⟩)
        · exact .inl (.inr h)
        · exact .inr ⟨h, rfl, hmoves⟩
      · rintro ((⟨h, -⟩ | h) | ⟨h, -, hmoves⟩)
        · exact absurd h hnot
        · exact .inl h
        · exact .inr ⟨h, hmoves⟩

theorem staged_after_fresh_iff :
    ((fresh config).after moves).staged = some s ↔ (fresh config).Awaits moves s := by
  rw [staged_after_iff]
  refine or_iff_left ?_
  rintro ⟨h, -⟩
  cases h

/-! ## 3. Served completions -/

/-- In this move the device serves a transaction: it takes over what came in, or the bus changes
contents or cursor, or an access is notified. -/
def Serves (d : Device) : Move → Prop
  | @Move.event _ _ bus event =>
    (∃ length, .takeReceived length ∈ d.calls bus event) ∨ ¬ (d.handle bus event).Silent d
  | _ => False

/-- None of these moves is a request that is accepted.  Each is judged in the state that the moves
before it have left. -/
def Quiet (d : Device) : List Move → Prop
  | [] => True
  | m :: moves => (∀ s, ¬ d.Accepted m s) ∧ (d.move m).device.Quiet moves

/-- Nothing is served but the end of the transaction that a buffer is staged for.  The two
directions are told apart by what is staged. -/
theorem Serves.staged_eq {β : Type} [Peripheral β] {bus : β} {event : BusEvent}
    (h : d.Serves (.event bus event)) :
    ∃ s count, d.staged = some s ∧ event = s.completion count := by
  rw [Serves, calls_eq] at h
  cases event with
  | writeRequested =>
    rcases h with ⟨length, h⟩ | h
    · cases List.mem_singleton.1 h
    · exact absurd (d.openWrite_silent bus) h
  | writeDone received =>
    by_cases hs : d.staged = some .receive
    · exact ⟨.receive, received, hs, rfl⟩
    · rw [asked, if_neg hs, handle, closeWrite_of_stray hs] at h
      rcases h with ⟨length, h⟩ | h
      · cases h
      · exact absurd ⟨rfl, rfl, rfl⟩ h
  | readRequested =>
    rcases h with ⟨length, h⟩ | h
    · cases List.mem_singleton.1 h
    · exact absurd (d.openRead_silent bus) h
  | readDone sent =>
    by_cases hs : ∃ offered, d.staged = some (.transmit offered)
    · obtain ⟨offered, hs⟩ := hs
      exact ⟨.transmit offered, sent, hs, rfl⟩
    · rw [handle, closeRead_of_stray (not_exists.1 hs)] at h
      rcases h with ⟨length, h⟩ | h
      · cases h
      · exact absurd ⟨rfl, rfl, rfl⟩ h
  | fault fault =>
    rcases h with ⟨length, h⟩ | h
    · cases h
    · exact absurd ⟨rfl, rfl, rfl⟩ h

theorem Serves.staged_ne_none (h : d.Serves m) : d.staged ≠ none := by
  cases m with
  | event bus event =>
    obtain ⟨s, -, hs, -⟩ := h.staged_eq
    rw [hs]
    exact Option.some_ne_none s
  | _ => exact h.elim

/-- What is served is an event, and not a request.  A request only stages something, which shows at
its completion. -/
theorem Serves.not_accepted (h : d.Serves m) : m.isEvent = true ∧ ∀ s, ¬ d.Accepted m s := by
  cases m with
  | event bus event =>
    obtain ⟨staged, count, -, rfl⟩ := h.staged_eq
    refine ⟨rfl, fun s hs => ?_⟩
    cases staged with
    | receive => cases hs
    | transmit offered => cases hs
  | _ => exact h.elim

theorem staged_after_refused (hm : m.isEvent = true) (hr : ∀ s, ¬ d.Accepted m s) :
    (d.move m).device.staged = none :=
  Option.eq_none_iff_forall_ne_some.2 fun s hs => hr s ((staged_move_iff hm).1 hs)

theorem staged_after_quiet : ∀ (moves : List Move) {d : Device},
    d.staged = none → d.Quiet moves → (d.after moves).staged = none
  | [], _, hs, _ => hs
  | m :: moves, d, hs, hq => by
    refine staged_after_quiet moves (d := (d.move m).device) ?_ hq.2
    cases hm : m.isEvent with
    | true => exact staged_after_refused hm hq.1
    | false => exact (d.staged_inside hm).trans hs

/-- After an event that is no accepted request, nothing is served until one is accepted.  It does
not matter which event that was. -/
theorem not_serves_of_quiet {last : Move} (hm : m.isEvent = true) (hr : ∀ s, ¬ d.Accepted m s)
    (hq : (d.move m).device.Quiet moves) : ¬ ((d.move m).device.after moves).Serves last :=
  fun h => h.staged_ne_none (staged_after_quiet moves (staged_after_refused hm hr) hq)

theorem Sound.after (h : d.Sound config) : ∀ moves : List Move, (d.after moves).Sound config := by
  intro moves
  induction moves generalizing d with
  | nil => exact h
  | cons m moves ih => exact ih (h.move m)

end Device

section Served

variable {η ω β : Type} [Observer η ω] [Peripheral β]

/-- **The end of a read for which bytes are staged is notified once**, with no more of them than
were offered. -/
theorem Link.yields_closeRead (h : d.Sound config) {offered : Nat}
    (hs : d.staged = some (.transmit offered)) (bus : β) (sent : Nat) (observer : Option η) :
    let handled := d.handle bus (.readDone sent)
    ∃ n : Notification, n.access = .read ∧ n.address = d.cursor ∧
      n.length.toNat = min sent offered ∧
        Link.Yields (Link.handle (.readDone sent) : Action (Link η β) ω EepromError Unit)
          ⟨⟨d, observer⟩, bus⟩ () handled.device handled.bus [(handled.device, n)] := by
  intro handled
  have hsize := config.size.toNat_lt
  have hoffered := h.staged_eq offered hs
  obtain ⟨log, hserved⟩ := Device.closeRead_of_transmit hs bus sent
  have hserved : handled = _ := hserved
  refine ⟨⟨.read, d.cursor, (min sent offered).toUInt16⟩, rfl, rfl, ?_, ?_⟩
  · rw [UInt16.toNat_ofNat', Nat.mod_eq_of_lt (by omega)]
  · have hy := Link.yields_handle (ω := ω) (ε := EepromError) (⟨⟨d, observer⟩, bus⟩ : Link η β)
      (.readDone sent) (rfl : _ = handled)
    have hn : handled.notification = some ⟨.read, d.cursor, (min sent offered).toUInt16⟩ := by
      rw [hserved]
    rwa [hn] at hy

/-- **Each accepted request is completed at most once, and nothing else is.**  Whatever happened
to a device since it was made:

* an event is served only if it is the completion of the last event, a request that was accepted;
* if that was a read request, its completion is notified once, with the lesser of the two counts;
* after a fault, a refused request or a completion, nothing is served until a request is accepted;
* after a served completion no other one is served until a request is accepted. -/
theorem completion_answers_request (config : DeviceConfig) (moves : List Move) (bus : β)
    (observer : Option η) :
    let start := Device.fresh config
    let d := start.after moves
    (∀ event, d.Serves (.event bus event) →
        ∃ s count, start.Awaits moves s ∧ event = s.completion count) ∧
      (∀ offered sent, start.Awaits moves (.transmit offered) →
        let handled := d.handle bus (.readDone sent)
        ∃ n : Notification, n.access = .read ∧ n.address = d.cursor ∧
          n.length.toNat = min sent offered ∧
            Link.Yields (Link.handle (.readDone sent) : Action (Link η β) ω EepromError Unit)
              ⟨⟨d, observer⟩, bus⟩ () handled.device handled.bus [(handled.device, n)]) ∧
      (∀ (m : Move) (later : List Move) (last : Move), m.isEvent = true →
        (∀ s, ¬ d.Accepted m s) → (d.move m).device.Quiet later →
          ¬ ((d.move m).device.after later).Serves last) ∧
      ∀ (m : Move) (later : List Move) (last : Move), d.Serves m →
        (d.move m).device.Quiet later → ¬ ((d.move m).device.after later).Serves last := by
  intro start d
  refine ⟨?_, ?_, ?_, ?_⟩
  · intro event h
    obtain ⟨s, count, hs, hevent⟩ := h.staged_eq
    exact ⟨s, count, Device.staged_after_fresh_iff.1 hs, hevent⟩
  · intro offered sent h
    have hd : d.Sound config := (Device.Sound.fresh config).after moves
    exact Link.yields_closeRead hd (Device.staged_after_fresh_iff.2 h) bus sent observer
  · intro m later last hm hr hq
    exact Device.not_serves_of_quiet hm hr hq
  · intro m later last hm hq
    obtain ⟨hevent, hr⟩ := hm.not_accepted
    exact Device.not_serves_of_quiet hevent hr hq

end Served

/-- A read request is accepted after a write request that was not, and the device is written to from
inside before the read is completed.  Its completion is notified with the three bytes that were
offered, whatever number of bytes it claims. -/
theorem completion_answers_second_request :
    let start := Device.fresh { size := 3 }
    let bus : ScriptedBus := {}
    let moves : List Move :=
      [.event { bus with failReceive := true } .writeRequested, .event bus .readRequested,
        .write 0 [9]]
    let d := start.after moves
    let last := (Link.handle (.readDone 70000) :
      Action (Link Recorder ScriptedBus) Record EepromError Unit).run ⟨d.recorded "h", bus⟩
    start.Awaits moves (.transmit 3) ∧ d.store.cells = [9, 0, 0] ∧
      ∃ n : Notification, n.access = .read ∧ n.address = 0 ∧ n.length.toNat = 3 ∧
        last.reports = [⟨"h", n, none⟩] := by
  intro start bus moves d last
  have hawaits : start.Awaits moves (.transmit 3) := Device.staged_after_fresh_iff.1 rfl
  obtain ⟨-, hread, -⟩ :=
    completion_answers_request (ω := Record) { size := 3 } moves bus (d.recorded "h").observer
  obtain ⟨n, haccess, haddress, hlength, hyields⟩ := hread 3 70000 hawaits
  refine ⟨hawaits, rfl, n, haccess, haddress, hlength, hyields.reports_eq.trans ?_⟩
  exact congrArg Prod.snd (Recorder.hear_plain "h" [(_, n)])

/-! ## 4. Completions in the wrong direction

The peripherals may be of different kinds, as the two completions may come from different buses. -/

section Stray

variable {β γ : Type} [Peripheral β] [Peripheral γ]

/-- The end of a write has no effect if it brings no address of the device, or nothing but the one
that the cursor is at. -/
theorem Device.closeWrite_silent_iff (hs : d.staged = some .receive) (bus : β) (received : Nat) :
    (d.closeWrite bus received).Silent d ↔
      (d.usable bus received).length < 2 ∨
        d.config.size.toNat ≤ Plain.header (d.usable bus received) ∨
        d.usable bus received = BigEndian.toBytes d.cursor := by
  rcases closeWrite_cases hs bus received with
    ⟨log, hi, hserved⟩ | ⟨address, hbytes, ha, hserved⟩ |
      ⟨address, payload, hbytes, hp, ha, hserved⟩
  · rw [hserved]
    refine ⟨fun _ => hi.imp_right .inl, fun _ => ⟨rfl, rfl, rfl⟩⟩
  · have hnot : ¬ d.config.size.toNat ≤ Plain.header (d.usable bus received) := by
      have hheader := Plain.header_toBytes address []
      rw [List.append_nil] at hheader
      rw [hbytes, hheader]
      exact Nat.not_le.2 (UInt16.lt_iff_toNat_lt.1 ha)
    rw [hserved]
    constructor
    · intro h
      exact .inr (.inr (hbytes.trans (congrArg _ h.cursor_eq)))
    · rintro (h | h | h)
      · rw [hbytes] at h
        exact absurd h (Nat.lt_irrefl 2)
      · exact absurd h hnot
      · exact ⟨rfl, BigEndian.toBytes_inj.1 (hbytes.symm.trans h), rfl⟩
  · -- Something is stored, so an access is notified, which is an effect in any case.
    rw [hserved, storePayload, if_neg hp]
    have hlength : 2 < (d.usable bus received).length := by
      rw [hbytes, List.length_append]
      exact Nat.lt_add_of_pos_right (List.length_pos_iff.2 hp)
    have hnot : ¬ d.config.size.toNat ≤ Plain.header (d.usable bus received) := by
      rw [hbytes, Plain.header_toBytes]
      exact Nat.not_le.2 (UInt16.lt_iff_toNat_lt.1 ha)
    constructor
    · intro h
      cases h.notification_eq
    · rintro (h | h | h)
      · exact absurd h (Nat.lt_asymm hlength)
      · exact absurd h hnot
      · rw [h] at hlength
        exact absurd hlength (Nat.lt_irrefl 2)

/-- A completion for which nothing is staged has no effect, and asks for nothing. -/
theorem Device.completion_silent (hs : d.staged = none) (s : Staged) (bus : β) (count : Nat) :
    let handled := d.handle bus (s.completion count)
    handled.Silent d ∧ handled.bus = bus := by
  intro handled
  cases s with
  | receive =>
    have hstray : handled = _ := closeWrite_of_stray (by simp [hs]) bus count
    rw [hstray]
    exact ⟨⟨rfl, rfl, rfl⟩, rfl⟩
  | transmit offered =>
    have hstray : handled = _ := closeRead_of_stray (by simp [hs]) bus count
    rw [hstray]
    exact ⟨⟨rfl, rfl, rfl⟩, rfl⟩

/-- A stray completion has no effect, asks for nothing, and leaves nothing staged. -/
theorem Device.stray_silent (hs : d.staged = some s) (bus : β) (count : Nat) :
    let handled := d.handle bus (s.stray count)
    handled.Silent d ∧ handled.bus = bus ∧ handled.device.staged = none := by
  intro handled
  cases s with
  | receive =>
    have hstray : handled = _ := closeRead_of_stray (by simp [hs]) bus count
    rw [hstray]
    exact ⟨⟨rfl, rfl, rfl⟩, rfl, rfl⟩
  | transmit offered =>
    have hstray : handled = _ := closeWrite_of_stray (by simp [hs]) bus count
    rw [hstray]
    exact ⟨⟨rfl, rfl, rfl⟩, rfl, rfl⟩

/-- **A completion in the wrong direction costs the open transaction its completion.**  It has no
effect of its own and asks nothing of its peripheral, but the staged buffer does not survive it:
the completion that comes next has no effect either.  So it is as if the stray one had never been
handled only at the end of a write that would have had no effect. -/
theorem stray_completion_drops_staged (hs : d.staged = some s) (stranger : γ) (bus : β)
    (wrong count : Nat) :
    let stray := d.handle stranger (s.stray wrong)
    let late := stray.device.handle bus (s.completion count)
    let due := d.handle bus (s.completion count)
    let bytes := d.usable bus count
    (stray.Silent d ∧ stray.bus = stranger ∧ stray.device.staged = none) ∧
      (late.Silent d ∧ late.bus = bus) ∧
      (late.device.store = due.device.store ∧ late.device.cursor = due.device.cursor ∧
          late.notification = due.notification ↔
        s = .receive ∧ (bytes.length < 2 ∨ d.config.size.toNat ≤ Plain.header bytes ∨
          bytes = BigEndian.toBytes d.cursor)) := by
  intro stray late due bytes
  have hignored : stray.Silent d ∧ stray.bus = stranger ∧ stray.device.staged = none :=
    Device.stray_silent hs stranger wrong
  have hsilent : stray.Silent d := hignored.1
  obtain ⟨hdropped, hbus⟩ := Device.completion_silent hignored.2.2 s bus count
  have hlate : late.Silent d :=
    ⟨hdropped.store_eq.trans hsilent.store_eq, hdropped.cursor_eq.trans hsilent.cursor_eq,
      hdropped.notification_eq⟩
  refine ⟨hignored, ⟨hlate, hbus⟩, ?_⟩
  -- As the late completion has no effect, the two agree if the one that is due has none.
  have hagree : late.device.store = due.device.store ∧ late.device.cursor = due.device.cursor ∧
      late.notification = due.notification ↔ due.Silent d := by
    rw [hlate.store_eq, hlate.cursor_eq, hlate.notification_eq]
    constructor
    · rintro ⟨hstore, hcursor, hnotification⟩
      exact ⟨hstore.symm, hcursor.symm, hnotification.symm⟩
    · rintro ⟨hstore, hcursor, hnotification⟩
      exact ⟨hstore.symm, hcursor.symm, hnotification.symm⟩
  rw [hagree]
  cases s with
  | receive =>
    rw [eq_self, true_and]
    exact Device.closeWrite_silent_iff hs bus count
  | transmit offered =>
    obtain ⟨log, hserved⟩ := Device.closeRead_of_transmit hs bus count
    have hserved : due = _ := hserved
    rw [hserved]
    constructor
    · intro h
      cases h.notification_eq
    · rintro ⟨h, -⟩
      cases h

/-- Eight bytes are offered to a controller, and before it has read four of them another peripheral
reports the end of a write: the read is neither notified nor does it move the cursor. -/
theorem stray_write_drops_read :
    let bus : SimulatedBus := { enabled := some (DeviceConfig.bus { size := 8 }) }
    let stranger : ScriptedBus := {}
    let d := (Device.fresh { size := 8 }).after [.event bus .readRequested]
    let late := (d.handle stranger (.writeDone 3)).device.handle bus (.readDone 4)
    let due := d.handle bus (.readDone 4)
    d.staged = some (.transmit 8) ∧ late.notification = none ∧ late.device.cursor = 0 ∧
      due.notification = some ⟨.read, 0, 4⟩ ∧ due.device.cursor = 4 := by
  intro bus stranger d late due
  have hs : d.staged = some (.transmit 8) := rfl
  obtain ⟨-, ⟨hlate, -⟩, -⟩ := stray_completion_drops_staged hs stranger bus 3 4
  exact ⟨hs, hlate.notification_eq, hlate.cursor_eq, rfl, rfl⟩

/-- It is not so that a staged buffer survives a completion in the other direction, and that the
completion that is due then has its effect: here a write of one byte is lost. -/
theorem stray_read_drops_write :
    let bus : ScriptedBus := { incoming := [0, 3, 0x55] }
    let d := (Device.fresh { size := 8 }).after [.event bus .writeRequested]
    let stray := d.handle bus (.readDone 0)
    let late := stray.device.handle bus (.writeDone 3)
    let due := d.handle bus (.writeDone 3)
    Reachable { size := 8 } d ∧ d.staged = some .receive ∧ stray.device.staged = none ∧
      due.device.store.cells = [0, 0, 0, 0x55, 0, 0, 0, 0] ∧
      late.device.store.cells = [0, 0, 0, 0, 0, 0, 0, 0] ∧
      due.device.cursor = 4 ∧ late.device.cursor = 0 ∧
      due.notification = some ⟨.write, 3, 1⟩ ∧ late.notification = none := by
  intro bus d stray late due
  have hd : Reachable { size := 8 } d := Reachable.of_moves rfl _
  exact ⟨hd, rfl, rfl, by decide +kernel, by decide +kernel, by decide +kernel,
    by decide +kernel, by decide +kernel, by decide +kernel⟩

end Stray

end SerialEeprom
