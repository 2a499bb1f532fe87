/-
# Notifications account for every change

Contents, cursor and notification are three results of one event.  This module shows that the
third tells the other two.

* An event that notifies a write has changed bytes in the notified range only and left the cursor
  behind it.
* One that notifies a read has moved the cursor over the notified range and changed no byte.
* One that notifies nothing has changed no byte and, unless it sets the cursor to an address that
  came alone, has not moved the cursor.

`Accounts` says these three things of a device before and after, without a word on the event.  The
numbers of a peripheral play no part: what they may be wrong about is cut before it is stored and
notified alike.

The proof follows the event.  A request is silent (`opened_silent`), and so is a completion of what
is not staged; what the bytes of one write can do comes in three kinds (`acceptBytes_cases`), of
which one stores anything.  From one event to many the step is small, since each byte that changed
at all was changed by some move (`Reachable.watch_covers`).  It is for whole runs that calls from
inside have to be left out, since they change bytes and notify nobody.

Main statement: all of this holds in every reachable state, and so what a recorder hears over any
number of moves covers every byte that they change, if nobody writes from inside
(`recorded_accounts`).
-/
import SerialEeprom.Proofs.Calls
import SerialEeprom.Proofs.Simulated
import SerialEeprom.Proofs.Yields
import SerialEeprom.Target.Recorder

namespace SerialEeprom

variable {config : DeviceConfig} {d : Device} {β : Type}

/-- Contents and cursor are left as they were, and nothing is notified.  What is staged, the phase
and the buffer may be others: they show only in what comes next. -/
structure Served.Silent (served : Served) (before : Device) : Prop where
  store_eq : served.device.store = before.store
  cursor_eq : served.device.cursor = before.cursor
  notification_eq : served.notification = none

namespace Device

/-! ## 1. What an event can do

One lemma for each of the ways in which a handler can go; nothing later opens a handler again. -/

theorem opened_silent (d : Device) (staged : Staged) (refused : String → LogEntry)
    (answer : Except String Unit) : (d.opened staged refused answer).Silent d := by
  cases answer with
  | ok _ => exact ⟨rfl, rfl, rfl⟩
  | error reason => exact ⟨rfl, rfl, rfl⟩

section Request

variable [Peripheral β]

theorem openWrite_silent (d : Device) (bus : β) : (d.openWrite bus).Silent d := by
  rw [toServed_openWrite]
  exact opened_silent ..

theorem openRead_silent (d : Device) (bus : β) : (d.openRead bus).Silent d := by
  rw [toServed_openRead]
  obtain ⟨hstore, hcursor, hnotification⟩ := opened_silent { d with scratch := _ } ..
  exact ⟨hstore, hcursor, hnotification⟩

/-- Of the bytes that a peripheral hands over at the end of a write, those that count: as many as
both the event and the peripheral speak of. -/
def usable (d : Device) (bus : β) (received : Nat) : List UInt8 :=
  let taken := Peripheral.takeReceived bus d.scratch
  taken.buffer.take (min received taken.count)

theorem closeWrite_of_receive (hs : d.staged = some .receive) (bus : β) (received : Nat) :
    d.closeWrite bus received
      = ⟨acceptBytes
          { d with staged := none, scratch := (Peripheral.takeReceived bus d.scratch).buffer }
          (d.usable bus received), (Peripheral.takeReceived bus d.scratch).bus⟩ :=
  if_pos hs

theorem closeWrite_of_stray (hs : d.staged ≠ some .receive) (bus : β) (received : Nat) :
    d.closeWrite bus received
      = ⟨⟨{ d with staged := none }, none, [.strayWrite received]⟩, bus⟩ :=
  if_neg hs

end Request

theorem closeRead_of_transmit {offered : Nat} (hs : d.staged = some (.transmit offered)) (bus : β)
    (sent : Nat) :
    ∃ log, d.closeRead bus sent
      = ⟨⟨{ d with
            phase := .idle, staged := none, cursor := d.cursor + (min sent offered).toUInt16 },
          some ⟨.read, d.cursor, (min sent offered).toUInt16⟩, log⟩, bus⟩ := by
  simp only [closeRead, hs]
  exact ⟨_, rfl⟩

theorem closeRead_of_stray (hs : ∀ offered, d.staged ≠ some (.transmit offered)) (bus : β)
    (sent : Nat) :
    d.closeRead bus sent
      = ⟨⟨{ d with phase := .idle, staged := none }, none, [.strayRead sent]⟩, bus⟩ := by
  unfold closeRead
  split
  · rename_i offered h
    exact absurd h (hs offered)
  · rfl

/-- **What the bytes of one write can do**: they are ignored, or they are an address alone, or
there is something to store behind the address. -/
theorem acceptBytes_cases (d : Device) (bytes : List UInt8) :
    (∃ log, (bytes.length < 2 ∨ d.config.size.toNat ≤ Plain.header bytes) ∧
        d.acceptBytes bytes = ⟨d, none, log⟩) ∨
      (∃ address, bytes = BigEndian.toBytes address ∧ address < d.config.size ∧
        d.acceptBytes bytes = ⟨{ d with cursor := address }, none, [.addressSet address]⟩) ∨
      ∃ address payload, bytes = BigEndian.toBytes address ++ payload ∧ payload ≠ [] ∧
        address < d.config.size ∧ d.acceptBytes bytes = d.storePayload address payload := by
  by_cases hi : bytes.length < 2 ∨ d.config.size.toNat ≤ Plain.header bytes
  · obtain ⟨entry, -, hserved⟩ := acceptBytes_of_ignored hi
    exact .inl ⟨[entry], hi, hserved⟩
  · rcases bytes with _ | ⟨high, _ | ⟨low, payload⟩⟩
    · exact absurd (.inl (Nat.zero_lt_succ 1)) hi
    · exact absurd (.inl (Nat.lt_succ_self 1)) hi
    · have hbytes : high :: low :: payload
          = BigEndian.toBytes (BigEndian.ofBytes high low) ++ payload := by
        rw [BigEndian.toBytes_ofBytes]
        rfl
      have ha : BigEndian.ofBytes high low < d.config.size := by
        rw [UInt16.lt_iff_toNat_lt, BigEndian.toNat_ofBytes]
        exact Nat.lt_of_not_le fun h => hi (.inr h)
      have hserved : d.acceptBytes (high :: low :: payload)
          = d.storePayload (BigEndian.ofBytes high low) payload := if_pos ha
      by_cases hp : payload = []
      · subst hp
        refine .inr (.inl ⟨_, ?_, ha, hserved⟩)
        rw [hbytes, List.append_nil]
      · exact .inr (.inr ⟨_, payload, hbytes, hp, ha, hserved⟩)

/-- What the end of a write can do that was given room.  The three kinds are those of the bytes that
count, on a device whose buffer was filled and is no longer staged. -/
theorem closeWrite_cases [Peripheral β] (hs : d.staged = some .receive) (bus : β)
    (received : Nat) :
    let taken := Peripheral.takeReceived bus d.scratch
    let filled : Device := { d with staged := none, scratch := taken.buffer }
    let bytes := d.usable bus received
    (∃ log, (bytes.length < 2 ∨ d.config.size.toNat ≤ Plain.header bytes) ∧
        d.closeWrite bus received = ⟨⟨filled, none, log⟩, taken.bus⟩) ∨
      (∃ address, bytes = BigEndian.toBytes address ∧ address < d.config.size ∧
        d.closeWrite bus received
          = ⟨⟨{ filled with cursor := address }, none, [.addressSet address]⟩, taken.bus⟩) ∨
      ∃ address payload, bytes = BigEndian.toBytes address ++ payload ∧ payload ≠ [] ∧
        address < d.config.size ∧
        d.closeWrite bus received = ⟨filled.storePayload address payload, taken.bus⟩ := by
  intro taken filled bytes
  rw [closeWrite_of_receive hs]
  rcases filled.acceptBytes_cases bytes with
    ⟨log, hi, hserved⟩ | ⟨address, hbytes, ha, hserved⟩ |
      ⟨address, payload, hbytes, hp, ha, hserved⟩
  · exact .inl ⟨log, hi, congrArg (Handled.mk · taken.bus) hserved⟩
  · exact .inr (.inl ⟨address, hbytes, ha, congrArg (Handled.mk · taken.bus) hserved⟩)
  · exact .inr (.inr ⟨address, payload, hbytes, hp, ha,
      congrArg (Handled.mk · taken.bus) hserved⟩)

/-! ## 2. One event -/

/-- The event ends a write that was given room, and what counts of it is this address alone.  This
is the one event that moves the cursor without being notified. -/
def Seeks [Peripheral β] (d : Device) (bus : β) (event : BusEvent) (address : UInt16) : Prop :=
  ∃ received, event = .writeDone received ∧ d.staged = some .receive ∧
    d.usable bus received = BigEndian.toBytes address ∧ address < d.config.size

end Device

/-- What is notified accounts for all that changed in a device of so many bytes.  If nothing is
notified, the cursor may have been set to such an address. -/
def Accounts (size : Nat) (before after : Device) (sought : UInt16 → Prop) :
    Option Notification → Prop
  | some ⟨.write, address, length⟩ =>
    1 ≤ length.toNat ∧ address.toNat + length.toNat ≤ size ∧
      after.cursor.toNat = address.toNat + length.toNat ∧
      ∀ i : Nat, ¬ (address.toNat ≤ i ∧ i < address.toNat + length.toNat) →
        after.store.cells[i]? = before.store.cells[i]?
  | some ⟨.read, address, length⟩ =>
    address = before.cursor ∧ after.cursor.toNat = address.toNat + length.toNat ∧
      address.toNat + length.toNat ≤ size ∧ after.store = before.store
  | none => after.store = before.store ∧ (after.cursor ≠ before.cursor → sought after.cursor)

theorem Served.Silent.accounts {served : Served} (h : served.Silent d) (size : Nat)
    (sought : UInt16 → Prop) : Accounts size d served.device sought served.notification := by
  rw [h.notification_eq]
  exact ⟨h.store_eq, fun hc => absurd h.cursor_eq hc⟩

namespace Device.Sound

/-- What is stored is a part of the payload, and not nothing.  The address is in the device, so at
least one byte fits behind it. -/
theorem storePayload_accounts (h : d.Sound config) {address : UInt16} (ha : address < config.size)
    {payload : List UInt8} (hp : payload ≠ []) (sought : UInt16 → Prop) :
    Accounts config.size.toNat d (d.storePayload address payload).device sought
      (d.storePayload address payload).notification := by
  have hsize := config.size.toNat_lt
  have ha : address.toNat < config.size.toNat := UInt16.lt_iff_toNat_lt.1 ha
  have hpos : 0 < payload.length := List.length_pos_iff.2 hp
  have hcells := h.length_cells
  simp only [Device.storePayload, if_neg hp, Store.writeTruncated, h.length_cells, Accounts]
  generalize hkept : min payload.length (config.size.toNat - address.toNat) = kept
  have hword : kept.toUInt16.toNat = kept := by
    rw [UInt16.toNat_ofNat', Nat.mod_eq_of_lt (by omega)]
  rw [hword, UInt16.toNat_add, hword]
  refine ⟨by omega, by omega, Nat.mod_eq_of_lt (by omega), ?_⟩
  intro i hi
  rw [getElem?_overlay, if_neg (by omega)]

theorem closeRead_accounts (h : d.Sound config) (bus : β) (sent : Nat) (sought : UInt16 → Prop) :
    Accounts config.size.toNat d (d.closeRead bus sent).device sought
      (d.closeRead bus sent).notification := by
  have hsize := config.size.toNat_lt
  have hcursor := h.cursor_le
  by_cases hs : ∃ offered, d.staged = some (.transmit offered)
  · obtain ⟨offered, hs⟩ := hs
    have hoffered := h.staged_eq offered hs
    have hword : (min sent offered).toUInt16.toNat = min sent offered := by
      rw [UInt16.toNat_ofNat', Nat.mod_eq_of_lt (by omega)]
    obtain ⟨log, hserved⟩ := Device.closeRead_of_transmit hs bus sent
    rw [hserved]
    simp only [Accounts]
    rw [UInt16.toNat_add, hword]
    exact ⟨trivial, Nat.mod_eq_of_lt (by omega), by omega, trivial⟩
  · rw [Device.closeRead_of_stray (not_exists.1 hs)]
    exact ⟨rfl, fun hc => absurd rfl hc⟩

variable [Peripheral β]

theorem closeWrite_accounts (h : d.Sound config) (bus : β) (received : Nat) :
    Accounts config.size.toNat d (d.closeWrite bus received).device
      (d.Seeks bus (.writeDone received)) (d.closeWrite bus received).notification := by
  by_cases hs : d.staged = some .receive
  · have hfilled := (h.refill (Peripheral.length_takeReceived bus d.scratch)).unstage d.phase
    rcases Device.closeWrite_cases hs bus received with
      ⟨log, -, hserved⟩ | ⟨address, hbytes, ha, hserved⟩ | ⟨address, payload, -, hp, ha, hserved⟩
    · rw [hserved]
      exact ⟨rfl, fun hc => absurd rfl hc⟩
    · rw [hserved]
      exact ⟨rfl, fun _ => ⟨received, rfl, hs, hbytes, ha⟩⟩
    · rw [hserved]
      exact hfilled.storePayload_accounts (h.config_eq ▸ ha) hp _
  · rw [Device.closeWrite_of_stray hs]
    exact ⟨rfl, fun hc => absurd rfl hc⟩

/-- **What an event notifies accounts for all that it changes.**  One case for each event; only the
ends of transactions have anything to account for. -/
theorem handle_accounts (h : d.Sound config) (bus : β) (event : BusEvent) :
    Accounts config.size.toNat d (d.handle bus event).device (d.Seeks bus event)
      (d.handle bus event).notification := by
  cases event with
  | writeRequested => exact (d.openWrite_silent bus).accounts ..
  | writeDone received => exact h.closeWrite_accounts bus received
  | readRequested => exact (d.openRead_silent bus).accounts ..
  | readDone sent => exact h.closeRead_accounts bus sent _
  | fault fault => exact ⟨rfl, fun hc => absurd rfl hc⟩

end Device.Sound

/-! ## 3. Under observation

A recorder is an observer like others, so what it records is found by letting it observe. -/

namespace Target

variable {η ω : Type} [Observer η ω]

/-- What a move leaves of a target, and what its observer reports on the way.  Calls from inside go
past the observer. -/
def move (t : Target η) : Move → Target η × List ω
  | @Move.event _ _ bus event =>
    let outcome := (Link.handle event : Action (Link η _) ω EepromError Unit).run ⟨t, bus⟩
    (outcome.state.target, outcome.reports)
  | m => ({ t with device := (t.device.move m).device }, [])

/-- What a move leaves, as an observer that is told of what it completes leaves it.  So a target can
be followed by following its device. -/
theorem move_eq_hear (t : Target η) (m : Move) :
    let told := (t.device.move m).notification.toList.map fun n => ((t.device.move m).device, n)
    let heard := Observer.hear t.observer told
    t.move m = (⟨(t.device.move m).device, heard.1⟩, heard.2) := by
  intro told heard
  cases m with
  | event bus event =>
    have hy := Link.yields_handle (ω := ω) (ε := EepromError) ⟨t, bus⟩ event rfl
    exact Prod.ext (congrArg Link.target hy.state_eq) hy.reports_eq
  | write address bytes => rfl
  | read address length => rfl
  | readInto address buffer => rfl
  | load address image => rfl

/-- What any number of moves leaves of a target, and what its observers report on the way.  An
observer may hand over in between, so the reports need not be those of one. -/
def watch (t : Target η) : List Move → Target η × List ω
  | [] => (t, [])
  | m :: moves =>
    let rest := (t.move m).1.watch moves
    (rest.1, (t.move m).2 ++ rest.2)

end Target

/-- A plain recorder reports all it hears, and goes on.  By recursion on what it hears, since it
observes again each time. -/
theorem Recorder.hear_plain (tag : String) : ∀ told : List (Device × Notification),
    Observer.hear (some (⟨tag, .plain⟩ : Recorder)) told
      = (some ⟨tag, .plain⟩, told.map fun t => ⟨tag, t.2, none⟩)
  | [] => rfl
  | (d, n) :: told => by
    have hrest := Recorder.hear_plain tag told
    simp only [Observer.hear, Observer.react, Recorder.react, hrest]
    rfl

/-- The device, with a plain recorder that observes it and will go on to do so. -/
def Device.recorded (d : Device) (tag : String) : Target Recorder :=
  ⟨d, some ⟨tag, .plain⟩⟩

/-- What is recorded of a move is what it notifies.  The recorder adds its tag and nothing else. -/
theorem Device.move_recorded (d : Device) (tag : String) (m : Move) :
    (d.recorded tag).move m
      = ((d.move m).device.recorded tag,
          (d.move m).notification.toList.map fun n => ⟨tag, n, none⟩) := by
  rw [Target.move_eq_hear]
  simp only [Device.recorded, Recorder.hear_plain, List.map_map]
  rfl

/-! ## 4. Any number of moves

The ranges of all recorded writes together cover what has changed. -/

/-- The move puts bytes into the device from inside.  Nobody is notified of these, so they have to
be known otherwise. -/
def Move.storesInside : Move → Bool
  | .write .. => true
  | .load .. => true
  | _ => false

/-- A byte in the range of a recorded write.  Reads are recorded too, but cover nothing. -/
def Record.Covers (r : Record) (i : Nat) : Prop :=
  r.notification.access = .write ∧ r.notification.address.toNat ≤ i ∧
    i < r.notification.address.toNat + r.notification.length.toNat

theorem Device.Sound.move_covers (h : d.Sound config) {m : Move} (hm : m.storesInside = false)
    (tag : String) {i : Nat} (hi : (d.move m).device.store.cells[i]? ≠ d.store.cells[i]?) :
    ∃ r ∈ ((d.recorded tag).move m).2, r.Covers i := by
  rw [Device.move_recorded]
  cases m with
  | event bus event =>
    have haccounts := h.handle_accounts bus event
    have hi : (d.handle bus event).device.store.cells[i]? ≠ d.store.cells[i]? := hi
    rcases hn : (d.handle bus event).notification with _ | ⟨_ | _, address, length⟩
    · rw [hn] at haccounts
      exact absurd (congrArg (fun s : Store => s.cells[i]?) haccounts.1) hi
    · rw [hn] at haccounts
      exact absurd (congrArg (fun s : Store => s.cells[i]?) haccounts.2.2.2) hi
    · rw [hn] at haccounts
      have hrange := Decidable.of_not_not (mt (haccounts.2.2.2 i) hi)
      refine ⟨⟨tag, ⟨.write, address, length⟩, none⟩, ?_, rfl, hrange⟩
      simp only [Device.move, hn, Option.toList, List.map_cons, List.map_nil, List.mem_singleton]
  | write address bytes => cases hm
  | read address length => exact absurd rfl hi
  | readInto address buffer => exact absurd rfl hi
  | load address image => cases hm

theorem Reachable.watch_covers (tag : String) : ∀ (moves : List Move) {d : Device},
    Reachable config d → (∀ m ∈ moves, m.storesInside = false) → ∀ i : Nat,
      ((d.recorded tag).watch moves).1.device.store.cells[i]? ≠ d.store.cells[i]? →
        ∃ r ∈ ((d.recorded tag).watch moves).2, r.Covers i
  | [], _, _, _, _, hi => absurd rfl hi
  | m :: moves, d, h, hm, i, hi => by
    simp only [Target.watch, List.mem_append] at hi ⊢
    by_cases hfirst : (d.move m).device.store.cells[i]? = d.store.cells[i]?
    · rw [Device.move_recorded] at hi ⊢
      obtain ⟨r, hr, hcovers⟩ := Reachable.watch_covers tag moves (h.moved m)
        (fun m' hm' => hm m' (List.mem_cons_of_mem _ hm')) i (hfirst ▸ hi)
      exact ⟨r, .inr hr, hcovers⟩
    · obtain ⟨r, hr, hcovers⟩ := h.sound.move_covers (hm m List.mem_cons_self) tag hfirst
      exact ⟨r, .inl hr, hcovers⟩

/-- **Notifications account for every change**: each event notifies at most one access, which
accounts for all that the event changed; and over any number of moves without a write from inside,
every byte that is another than before lies in the range of a recorded write. -/
theorem recorded_accounts (h : Reachable config d) (tag : String) :
    (∀ {β : Type} [Peripheral β] (bus : β) (event : BusEvent),
        let handled := d.handle bus event
        (d.recorded tag).move (.event bus event)
            = (handled.device.recorded tag,
                handled.notification.toList.map fun n => ⟨tag, n, none⟩) ∧
          Accounts config.size.toNat d handled.device (d.Seeks bus event) handled.notification) ∧
      ∀ moves : List Move, (∀ m ∈ moves, m.storesInside = false) → ∀ i : Nat,
        ((d.recorded tag).watch moves).1.device.store.cells[i]? ≠ d.store.cells[i]? →
          ∃ r ∈ ((d.recorded tag).watch moves).2, r.Covers i := by
  constructor
  · intro β _ bus event handled
    exact ⟨d.move_recorded tag (.event bus event), h.sound.handle_accounts bus event⟩
  · intro moves hm
    exact Reachable.watch_covers tag moves h hm

/-- A peripheral that claims far more than came in changes two bytes, and both are recorded. -/
theorem recorded_accounts_of_wrong_counts :
    let bus : ScriptedBus := { incoming := [0, 1, 9, 8, 7, 6], claim := some 70000 }
    let d := (Device.fresh { size := 4 }).after [.load 0 [1, 2, 3, 4]]
    let moves : List Move :=
      [.event bus .writeRequested, .read 0 2, .event bus (.writeDone 99999)]
    let seen := (d.recorded "h").watch moves
    Reachable { size := 4 } d ∧ (∀ m ∈ moves, m.storesInside = false) ∧
      seen.1.device.store.cells = [1, 9, 8, 4] ∧ seen.1.device.cursor = 3 ∧
      seen.2.map Record.notification = [⟨.write, 1, 2⟩] ∧ ∃ r ∈ seen.2, r.Covers 2 := by
  intro bus d moves seen
  have hd : Reachable { size := 4 } d := Reachable.of_moves rfl _
  have hm : ∀ m ∈ moves, m.storesInside = false := by decide
  have hcells : seen.1.device.store.cells = [1, 9, 8, 4] := by decide +kernel
  have hcovers := (recorded_accounts hd "h").2 moves hm 2
  refine ⟨hd, hm, hcells, by decide +kernel, by decide +kernel, hcovers ?_⟩
  decide +kernel

end SerialEeprom
