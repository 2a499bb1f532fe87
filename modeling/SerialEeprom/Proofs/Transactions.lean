/-
# Transactions from the far side

A controller's transaction is a request and its completion, with the scratch buffer, the staging
and three fields of the bus in between.  Seen from the controller all of this is a plain EEPROM:
whatever happened to the device before, and whatever is left over on the bus, each transaction
gives what the plain EEPROM answers, leaves the device as that leaves itself, and tells the
observer of the same accesses.

To follow a plain EEPROM is four things at once (`Follows`): the result, what the device is
afterwards, a bus that is ready again, and what the observer was told.  The second is said of a
reachable device, so that a call may be made after it; with the third this makes the relation one
that sequences keep (`Follows.bind`), and any number of calls is done by induction.

A transaction on a ready bus is its two events, since nothing is in the way when the target is
addressed (`yields_send`, `yields_receive`).  What the events do is known from the module on the
simulated bus; here they are only put one behind the other.  That the bus held something before, or
that something was open, is no condition anywhere: the first event replaces both.

Main statements: either transaction follows the plain EEPROM from every reachable device
(`transactions_follow_plain`), and so does any number of them (`exchange_follows`).
-/
import SerialEeprom.Proofs.Simulated
import SerialEeprom.Proofs.Yields
import SerialEeprom.Target.Recorder

namespace SerialEeprom

variable {config : DeviceConfig} {d : Device} {bus : SimulatedBus}

/-- The bus is up, and nothing will abort the next transaction.  The rest of it does not matter. -/
structure SimulatedBus.Ready (bus : SimulatedBus) : Prop where
  enabled : bus.enabled.isSome
  no_fault : bus.fault = none

/-! ## 1. The calls of a controller

As what they yield, in terms of the events. -/

namespace Controller

variable {η ω α γ : Type} [Observer η ω] {l : Link η SimulatedBus}

theorem yields_address (hb : l.bus.Ready) (request : BusEvent) :
    Link.Yields (address request : Call η ω Unit) l () l.target.device l.bus [] := by
  have henabled : ¬ l.bus.enabled.isNone := by
    rw [Option.isNone_iff_eq_none]
    exact Option.isSome_iff_ne_none.1 hb.enabled
  apply Link.Yields.get
  rw [if_neg henabled, hb.no_fault]
  exact .pure l ()

theorem yields_signal (l : Link η SimulatedBus) (event : BusEvent) {handled : Handled SimulatedBus}
    (hh : l.target.device.handle l.bus event = handled) :
    Link.Yields (signal event : Call η ω Unit) l () handled.device handled.bus
      (handled.notification.toList.map fun n => (handled.device, n)) :=
  (Link.Yields.log l _).bind (Link.yields_handle l event hh)

/-- A write is its two events, one after the other.  What they leave is given as it is found, and
settled by the device later. -/
theorem yields_send (hb : l.bus.Ready) (bytes : List UInt8) {opened closed : Handled SimulatedBus}
    (hopen : l.target.device.handle { l.bus with incoming := bytes, capacity := none }
      .writeRequested = opened)
    (hn : opened.notification = none)
    (hclose : opened.device.handle opened.bus (.writeDone (accepted opened.bus bytes.length))
      = closed) :
    Link.Yields (send bytes : Call η ω Nat) l (accepted opened.bus bytes.length) closed.device
      closed.bus (closed.notification.toList.map fun n => (closed.device, n)) := by
  have hready : SimulatedBus.Ready { l.bus with incoming := bytes, capacity := none } :=
    ⟨hb.enabled, hb.no_fault⟩
  have hsignal := yields_signal (η := η) (ω := ω)
    ⟨l.target, { l.bus with incoming := bytes, capacity := none }⟩ _ hopen
  rw [hn] at hsignal
  refine (Link.Yields.modifyBus l _).bind ((yields_address hready _).bind (hsignal.bind (.get ?_)))
  have hdone := (yields_signal (η := η) (ω := ω)
    ⟨⟨opened.device, l.target.observer⟩, opened.bus⟩ _ hclose).map
      fun _ => accepted opened.bus bytes.length
  dsimp only
  split
  · exact (Link.Yields.log _ _).bind hdone
  · exact hdone

/-- So is a read.  What was offered is taken before the read is completed, and nothing of it stays
on the bus. -/
theorem yields_receive (hb : l.bus.Ready) (length : Nat) {opened closed : Handled SimulatedBus}
    (hopen : l.target.device.handle { l.bus with offered := [] } .readRequested = opened)
    (hn : opened.notification = none)
    (hclose : opened.device.handle { opened.bus with offered := [] }
      (.readDone (opened.bus.offered.take length).length) = closed) :
    Link.Yields (receive length : Call η ω (List UInt8)) l (opened.bus.offered.take length)
      closed.device closed.bus (closed.notification.toList.map fun n => (closed.device, n)) := by
  have hready : SimulatedBus.Ready { l.bus with offered := [] } := ⟨hb.enabled, hb.no_fault⟩
  have hsignal := yields_signal (η := η) (ω := ω) ⟨l.target, { l.bus with offered := [] }⟩ _ hopen
  rw [hn] at hsignal
  have hdone := (yields_signal (η := η) (ω := ω)
    ⟨⟨opened.device, l.target.observer⟩, { opened.bus with offered := [] }⟩ _ hclose).map
      fun _ => opened.bus.offered.take length
  exact (Link.Yields.modifyBus l _).bind ((yields_address hready _).bind
    (hsignal.bind (.get ((Link.Yields.modifyBus _ _).bind hdone))))

/-! ## 2. Following the plain EEPROM

The relation, how it is put together, and that both transactions stand in it. -/

/-- The observer was told of exactly these accesses, in this order.  With which device is left open,
since plain EEPROMs do not have one. -/
def Tells (observer : Option η) (o : Outcome (Link η SimulatedBus) ω EepromError α)
    (told : List Plain.Completion) : Prop :=
  ∃ seen : List (Device × Notification), seen.map (fun t => t.2.completion) = told ∧
    o.state.target.observer = (Observer.hear observer seen).1 ∧
    o.reports = (Observer.hear observer seen).2

/-- Run on `l`, the call does what the plain EEPROM answers. -/
structure Follows (config : DeviceConfig) (a : Call η ω α) (l : Link η SimulatedBus)
    (answer : Plain.Answer config.size.toNat α) : Prop where
  result_eq : (a.run l).result = .ok answer.value
  /-- The device is to a controller what the plain EEPROM is then. -/
  plain_eq : ∃ h : Reachable config (a.run l).state.target.device, h.sound.plain = answer.after
  /-- The bus is ready for the next call. -/
  ready : (a.run l).state.bus.Ready
  tells : Tells l.target.observer (a.run l) answer.told

namespace Follows

variable {a : Call η ω α} {first answer : Plain.Answer config.size.toNat α}
  {second : Plain.Answer config.size.toNat γ} {seen : List (Device × Notification)}

theorem of_yields (hy : Link.Yields a l answer.value d bus seen) (h : Reachable config d)
    (hplain : h.sound.plain = answer.after) (hb : bus.Ready)
    (hseen : seen.map (fun t => t.2.completion) = answer.told) : Follows config a l answer where
  result_eq := hy.result_eq
  plain_eq := by rw [hy.state_eq]; exact ⟨h, hplain⟩
  ready := by rw [hy.state_eq]; exact hb
  tells := ⟨seen, hseen, by rw [hy.state_eq], hy.reports_eq⟩

theorem yields (hf : Follows config a l answer) :
    ∃ seen : List (Device × Notification), seen.map (fun t => t.2.completion) = answer.told ∧
      Link.Yields a l answer.value (a.run l).state.target.device (a.run l).state.bus seen := by
  obtain ⟨seen, hseen, hobserver, hreports⟩ := hf.tells
  exact ⟨seen, hseen, hf.result_eq, by rw [← hobserver], hreports⟩

theorem bind {f : α → Call η ω γ} (ha : Follows config a l first)
    (hf : ∀ {k : Link η SimulatedBus} (h : Reachable config k.target.device), k.bus.Ready →
      h.sound.plain = first.after → Follows config (f first.value) k second) :
    Follows config (a >>= f) l (first.andThen second) := by
  obtain ⟨seen, hseen, hy⟩ := ha.yields
  obtain ⟨h, hplain⟩ := ha.plain_eq
  let k : Link η SimulatedBus :=
    ⟨⟨(a.run l).state.target.device, (Observer.hear l.target.observer seen).1⟩,
      (a.run l).state.bus⟩
  have hk := hf (k := k) h ha.ready hplain
  obtain ⟨rest, hrest, hz⟩ := hk.yields
  obtain ⟨hd, hafter⟩ := hk.plain_eq
  refine of_yields (hy.bind hz) hd hafter hk.ready ?_
  rw [List.map_append, hseen, hrest]
  rfl

theorem map (ha : Follows config a l answer) (f : α → γ) :
    Follows config (a >>= fun x => pure (f x)) l (answer.map f) := by
  obtain ⟨seen, hseen, hy⟩ := ha.yields
  obtain ⟨h, hplain⟩ := ha.plain_eq
  exact of_yields (hy.map f) h hplain ha.ready hseen

/-- At the end of a transaction, the observer was told of what its last event completed. -/
theorem of_served {served : Served}
    (hy : Link.Yields a l answer.value served.device bus
      (served.notification.toList.map fun n => (served.device, n)))
    (h : Reachable config served.device) (hb : bus.Ready)
    (hcells : served.device.store.cells = answer.after.contents)
    (hcursor : served.device.cursor.toNat = answer.after.cursor)
    (htold : served.notification.toList.map Notification.completion = answer.told) :
    Follows config a l answer := by
  refine of_yields hy h (Plain.ext hcells hcursor) hb ?_
  rw [List.map_map]
  exact htold

end Follows

/-- **A write follows the plain EEPROM.**  Its bytes are on the bus when room is made, and as many
are taken as found room. -/
theorem send_follows (h : Reachable config l.target.device) (hb : l.bus.Ready)
    (bytes : List UInt8) :
    Follows config (send bytes : Call η ω Nat) l (h.sound.plain.send bytes) := by
  let d := l.target.device
  let taken := bytes.take config.size.toNat
  let before : SimulatedBus := { l.bus with incoming := bytes, capacity := none }
  let room : SimulatedBus := { before with capacity := some config.size.toNat }
  let opened : Device := { d with phase := .operation, staged := some .receive }
  let filled : Device := { opened with staged := none, scratch := overlay d.scratch 0 taken }
  have hopen : d.handle before .writeRequested = ⟨⟨opened, none, []⟩, room⟩ :=
    Device.openWrite_simulated h.sound hb.enabled
  have hopened : Reachable config opened := h.handled hopen
  have hclose : opened.handle room (.writeDone (accepted room bytes.length))
      = ⟨filled.acceptBytes taken, { room with capacity := none }⟩ :=
    Device.closeWrite_simulated hopened.sound rfl rfl
  have hvalue : accepted room bytes.length = (h.sound.plain.send bytes).value := by
    rw [Plain.send_value]
    exact Nat.min_comm ..
  have hy := yields_send (η := η) (ω := ω) hb bytes hopen rfl hclose
  rw [hvalue] at hy
  have hfilled : filled.Sound config := (h.sound.refill (length_overlay ..)).unstage .operation
  have hroom : taken.length ≤ config.size.toNat := List.length_take_le ..
  obtain ⟨hcells, hcursor, htold⟩ := Device.acceptBytes_plain hfilled hroom
  rw [Plain.send_take] at hcells hcursor htold
  exact .of_served hy (hopened.handled hclose) ⟨hb.enabled, hb.no_fault⟩ hcells hcursor htold

/-- **A read follows the plain EEPROM.**  All bytes from the cursor on are offered, and as many are
taken as were asked for. -/
theorem receive_follows (h : Reachable config l.target.device) (hb : l.bus.Ready)
    (length : Nat) :
    Follows config (receive length : Call η ω (List UInt8)) l (h.sound.plain.receive length) := by
  let d := l.target.device
  let rest := d.store.cells.drop d.cursor.toNat
  let bytes := rest.take length
  let before : SimulatedBus := { l.bus with offered := [] }
  let opened : Device := { d with
    phase := .operation
    scratch := overlay d.scratch 0 rest
    staged := some (.transmit rest.length) }
  let closed : Device := { opened with
    phase := .idle, staged := none, cursor := d.cursor + bytes.length.toUInt16 }
  have hopen : d.handle before .readRequested
      = ⟨⟨opened, none, []⟩, { before with offered := rest }⟩ :=
    Device.openRead_simulated h.sound hb.enabled
  have hclose : opened.handle before (.readDone bytes.length)
      = ⟨⟨closed, some ⟨.read, d.cursor, bytes.length.toUInt16⟩, [.readDone bytes.length d.cursor]⟩,
          before⟩ :=
    Device.closeRead_of_le (d := opened) rfl (List.length_take_le' ..) before
  have hy := yields_receive (η := η) (ω := ω) hb length hopen rfl hclose
  have hsize := config.size.toNat_lt
  have hend : d.cursor.toNat + bytes.length ≤ config.size.toNat :=
    (h.sound.plain.receive length).after.cursor_le
  have hlength : bytes.length.toUInt16.toNat = bytes.length := by
    rw [UInt16.toNat_ofNat', Nat.mod_eq_of_lt (by omega)]
  refine .of_served hy ((h.handled hopen).handled hclose) ⟨hb.enabled, hb.no_fault⟩ rfl ?_ ?_
  · change (d.cursor + bytes.length.toUInt16).toNat = d.cursor.toNat + bytes.length
    rw [UInt16.toNat_add, hlength, Nat.mod_eq_of_lt (by omega)]
  · change [(⟨.read, d.cursor.toNat, bytes.length.toUInt16.toNat⟩ : Plain.Completion)]
      = [⟨.read, d.cursor.toNat, bytes.length⟩]
    rw [hlength]

/-! ## 3. Any number of transactions

The plain EEPROM that is followed next is the one that was left. -/

/-- One transaction of either kind. -/
def perform : Transaction → Call η ω Reply
  | .send bytes => do
    let count ← send bytes
    pure (.accepted count)
  | .receive length => do
    let bytes ← receive length
    pure (.received bytes)

/-- One transaction after the other.  Each finds the bus as the one before it left it, which is
ready again. -/
def exchange : List Transaction → Call η ω (List Reply)
  | [] => pure []
  | t :: ts => do
    let reply ← perform t
    let replies ← exchange ts
    pure (reply :: replies)

theorem perform_follows (h : Reachable config l.target.device) (hb : l.bus.Ready)
    (t : Transaction) : Follows config (perform t : Call η ω Reply) l (h.sound.plain.answer t) := by
  cases t with
  | send bytes => exact (send_follows h hb bytes).map Reply.accepted
  | receive length => exact (receive_follows h hb length).map Reply.received

/-- **Any number of transactions follow the plain EEPROM.**  By induction: each leaves a reachable
device and a bus that is ready. -/
theorem exchange_follows : ∀ (ts : List Transaction) {l : Link η SimulatedBus}
    (h : Reachable config l.target.device), l.bus.Ready →
    Follows config (exchange ts : Call η ω (List Reply)) l (h.sound.plain.answers ts)
  | [], l, h, hb => .of_yields (.pure l []) h rfl hb rfl
  | t :: ts, _, h, hb => by
    refine (perform_follows h hb t).bind ?_
    intro k hk hc hplain
    rw [← hplain]
    exact (exchange_follows ts hk hc).map (_ :: ·)

/-- **Either transaction follows the plain EEPROM**, from every state a device can get into and
with anything left over on the bus. -/
theorem transactions_follow_plain (h : Reachable config l.target.device) (hb : l.bus.Ready) :
    (∀ bytes : List UInt8,
        Follows config (send bytes : Call η ω Nat) l (h.sound.plain.send bytes)) ∧
      ∀ length : Nat,
        Follows config (receive length : Call η ω (List UInt8)) l
          (h.sound.plain.receive length) :=
  ⟨send_follows h hb, receive_follows h hb⟩

/-- A write that runs over the end of the device, while a read is still open there and the bus
holds bytes of an earlier write. -/
theorem transactions_follow_plain_over_leftovers :
    let config : DeviceConfig := { size := 8 }
    let bus : SimulatedBus :=
      { enabled := some config.bus, incoming := [9, 9, 9], capacity := some 1, offered := [7] }
    let d := (Device.fresh config).after
      [.load 0 [1, 2, 3, 4, 5, 6, 7, 8], .event bus .readRequested]
    let l : Link Recorder SimulatedBus := ⟨⟨d, some ⟨"h", .plain⟩⟩, bus⟩
    d.staged = some (.transmit 8) ∧ ∃ after : Plain 8, after.contents = [1, 2, 3, 4, 5, 6, 10, 11] ∧
      Follows config (send [0, 6, 10, 11, 12]) l ⟨5, after, [⟨.write, 6, 2⟩]⟩ := by
  intro config bus d l
  have hd : Reachable config d := .of_moves rfl _
  have hfollows := (transactions_follow_plain (l := l) hd ⟨rfl, rfl⟩).1 [0, 6, 10, 11, 12]
  exact ⟨rfl, _, rfl, hfollows⟩

end Controller

end SerialEeprom
