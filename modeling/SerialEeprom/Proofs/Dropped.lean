/-
# What is dropped is logged

Nobody on the bus can be told of a failure, so the log is all there is to see of an event that was
dropped.  This module shows that it can be relied on in both directions: an event that is dropped
leaves one warning or error and nothing else, and any other event leaves none, except that the end
of a read which claims more than was offered is served with a warning.  The bytes of a write that
do not fit are told by a message of their own, with their number.

Which events are dropped is `Device.drops`, by what the peripheral answers and what is staged, and
not by what the device does with them.  In particular the bytes of a write are judged by the counts
that are told of them and by the header they start with, as they stand in the buffer; that these
are the bytes the device looks at is a lemma (`usable_ignored_iff`) and needs the buffer to have its
length.

The two directions have different proofs.  That a dropped event leaves a message is a walk through
the ways to drop one.  That any other leaves none needs to know everything such an event does, which
is `Accounts` and the module on calls; its warnings are then counted, and there are none to count.

A message in the log is a value here.  Whoever reads it as a line finds the number of dropped bytes
in that line, in decimal (`standsIn_of_dropped?`).

Main statements: the messages of one event, with what it leaves (`dropped_events_are_logged`), and
that the log of any number of moves has as many warnings and errors as moves deserved one
(`Sound.length_graves`).
-/
import SerialEeprom.Proofs.Accounts
import SerialEeprom.Proofs.Wording

namespace SerialEeprom

variable {config : DeviceConfig} {d : Device} {β : Type}

namespace LogEntry

/-- The message is a warning or an error.  Any other message belongs to normal work. -/
def isGrave (entry : LogEntry) : Bool :=
  match entry.level with
  | .error => true
  | .warn => true
  | _ => false

/-- The number of bytes that did not fit, if the message tells one.  Only one kind does. -/
def dropped? : LogEntry → Option Nat
  | bytesDropped count => some count
  | _ => none

theorem isGrave_of_level {entry : LogEntry} (h : entry.level = .error ∨ entry.level = .warn) :
    entry.isGrave := by
  rcases h with h | h
  · rw [isGrave, h]
  · rw [isGrave, h]

theorem level_of_dropped? {entry : LogEntry} (h : entry.dropped?.isSome) :
    entry.level = .debug := by
  cases entry with
  | bytesDropped => rfl
  | _ => cases h

/-- Whoever reads the line of such a message finds the number in it. -/
theorem standsIn_of_dropped? {entry : LogEntry} {n : Nat} (h : entry.dropped? = some n) :
    (Figure.decimal n).StandsIn (entry.line ++ "\n") := by
  cases entry with
  | bytesDropped count =>
    obtain rfl := Option.some.inj h
    exact line_shows_figures (bytesDropped count) _ (List.mem_singleton.2 rfl)
  | _ => cases h

end LogEntry

namespace Served

/-- The warnings and errors of an event.  They are all of its log that a filter at the level of
warnings shows. -/
def graves (served : Served) : List LogEntry :=
  served.log.filter LogEntry.isGrave

theorem graves_of_log {served : Served} {entry : LogEntry} (hg : entry.isGrave)
    (hl : served.log = [entry]) : served.graves = [entry] := by
  rw [graves, hl, List.filter_cons_of_pos hg, List.filter_nil]

/-- What a dropped event leaves: one message, a warning or an error, and nothing else.  Contents and
cursor are as before, and nobody is notified. -/
structure Dropped (served : Served) (before : Device) : Prop extends served.Silent before where
  log_eq : ∃ entry, entry.isGrave ∧ served.log = [entry]

/-- What the end of a write leaves that stores a payload: the contents have the part of it that
fits, and a message tells how much did not, if any. -/
structure Stores (served : Served) (before : Device) (size address : Nat) (payload : List UInt8)
    (stored : Nat) : Prop where
  stored_eq : stored = min payload.length (size - address)
  cells_eq : served.device.store.cells
    = overlay before.store.cells address (payload.take stored)
  cursor_eq : served.device.cursor.toNat = address + stored
  notification_eq : served.notification.toList.map Notification.completion
    = if payload = [] then [] else [⟨.write, address, stored⟩]
  dropped_eq : served.log.filterMap LogEntry.dropped?
    = if stored < payload.length then [payload.length - stored] else []
  level_eq : ∀ entry ∈ served.log, entry.dropped?.isSome → entry.level = .debug

end Served

/-- Only contents and cursor of the device before play a part. -/
theorem Served.Dropped.transfer {served : Served} {e : Device} (h : served.Dropped d)
    (hs : d.store = e.store) (hc : d.cursor = e.cursor) : served.Dropped e where
  store_eq := h.store_eq.trans hs
  cursor_eq := h.cursor_eq.trans hc
  notification_eq := h.notification_eq
  log_eq := h.log_eq

/-! ## 1. Which events are dropped -/

namespace Device

/-- The number of bytes that are staged for a controller to read, if any are. -/
def stagedRead? (d : Device) : Option Nat :=
  match d.staged with
  | some (.transmit offered) => some offered
  | _ => none

theorem stagedRead?_eq_some_iff {offered : Nat} :
    d.stagedRead? = some offered ↔ d.staged = some (.transmit offered) := by
  rcases hs : d.staged with _ | _ | n
  · simp only [stagedRead?, hs, reduceCtorEq]
  · simp only [stagedRead?, hs, reduceCtorEq, Option.some.injEq]
  · simp only [stagedRead?, hs, Option.some.injEq, Staged.transmit.injEq]

section

variable [Peripheral β]

/-- The event cannot be served: the peripheral refuses the buffer of a request, a completion has no
buffer, the bytes of a write are no address, or one behind the end, or the bus failed. -/
def drops (d : Device) (bus : β) : BusEvent → Bool
  | .writeRequested => !(Peripheral.prepareReceive bus d.config.size.toNat).1.isOk
  | .writeDone received =>
    let taken := Peripheral.takeReceived bus d.scratch
    d.staged ≠ some .receive ∨ min received (min taken.count d.config.size.toNat) < 2 ∨
      d.config.size.toNat ≤ Plain.header taken.buffer
  | .readRequested => !(Peripheral.offer bus (d.store.cells.drop d.cursor.toNat)).1.isOk
  | .readDone _ => d.stagedRead?.isNone
  | .fault _ => true

end

/-- The event ends a read, and claims more bytes than were offered.  Such a claim is cut to what was
offered, and the read is served. -/
def overclaims (d : Device) : BusEvent → Bool
  | .readDone sent => d.stagedRead?.any (· < sent)
  | _ => false

/-! ## 2. The messages of each event

Handler by handler: how many of its messages are warnings or errors. -/

/-- A request that is refused is dropped.  The reason of the peripheral is in the message. -/
theorem opened_dropped (d : Device) (staged : Staged) {refused : String → LogEntry}
    (hg : ∀ reason, (refused reason).isGrave) {answer : Except String Unit}
    (ha : answer.isOk = false) : (d.opened staged refused answer).Dropped d := by
  cases answer with
  | ok _ => cases ha
  | error reason => exact ⟨⟨rfl, rfl, rfl⟩, refused reason, hg reason, rfl⟩

/-- A request that is accepted is not logged.  Its completion will be. -/
theorem graves_opened (d : Device) (staged : Staged) (refused : String → LogEntry)
    {answer : Except String Unit} (ha : answer.isOk) :
    (d.opened staged refused answer).graves = [] := by
  cases answer with
  | ok _ => rfl
  | error reason => cases ha

/-- Bytes that are no address, or one behind the end, are dropped.  The two reasons have messages of
different levels. -/
theorem acceptBytes_dropped {bytes : List UInt8}
    (hi : bytes.length < 2 ∨ d.config.size.toNat ≤ Plain.header bytes) :
    (d.acceptBytes bytes).Dropped d := by
  obtain ⟨entry, hlevel, hserved⟩ := acceptBytes_of_ignored hi
  rw [hserved]
  exact ⟨⟨rfl, rfl, rfl⟩, entry, LogEntry.isGrave_of_level hlevel, rfl⟩

/-- Storing leaves no warning, and one message if it drops bytes.  The message has the number of
bytes that came in less those that were kept. -/
theorem log_storePayload (d : Device) (address : UInt16) (payload : List UInt8) :
    let stored := min payload.length (d.store.cells.length - address.toNat)
    (d.storePayload address payload).graves = [] ∧
      (d.storePayload address payload).log.filterMap LogEntry.dropped?
        = if stored < payload.length then [payload.length - stored] else [] := by
  intro stored
  unfold storePayload
  split
  · rename_i hp
    subst hp
    exact ⟨rfl, rfl⟩
  · by_cases hd : min payload.length (d.store.cells.length - address.toNat) < payload.length
    · dsimp only [Store.writeTruncated, Served.graves, stored]
      rw [if_pos hd, if_pos hd]
      exact ⟨rfl, rfl⟩
    · dsimp only [Store.writeTruncated, Served.graves, stored]
      rw [if_neg hd, if_neg hd]
      exact ⟨rfl, rfl⟩

/-- Bytes with an address in the device are served.  How many are stored is settled by the room
behind the address. -/
theorem Sound.acceptBytes_stores (h : d.Sound config) {bytes : List UInt8} (hl : 2 ≤ bytes.length)
    (ha : Plain.header bytes < config.size.toNat) :
    (d.acceptBytes bytes).graves = [] ∧
      ∃ stored, (d.acceptBytes bytes).Stores d config.size.toNat (Plain.header bytes)
        (bytes.drop 2) stored := by
  obtain ⟨address, haddress, hserved⟩ := acceptBytes_of_stored hl (h.config_eq.symm ▸ ha)
  obtain ⟨hgraves, hdropped⟩ := d.log_storePayload address (bytes.drop 2)
  obtain ⟨hcells, hcursor, hnotification⟩ :=
    storePayload_plain h (haddress ▸ ha) (bytes.drop 2)
  rw [h.length_cells] at hdropped
  rw [hserved, ← haddress]
  refine ⟨hgraves, _, rfl, ?_, hcursor, hnotification, hdropped,
    fun _ _ => LogEntry.level_of_dropped?⟩
  rw [hcells, overlay_take]
  rw [h.length_cells]
  omega

/-- A read that claims more than was offered is served with a warning, any other without.  The
warning has both numbers. -/
theorem graves_closeRead {offered : Nat} (hs : d.staged = some (.transmit offered)) (bus : β)
    (sent : Nat) :
    (d.closeRead bus sent).graves = if offered < sent then [.overread sent offered] else [] := by
  by_cases hc : offered < sent
  · simp only [closeRead, hs, Served.graves, if_pos hc]
    rfl
  · simp only [closeRead, hs, Served.graves, if_neg hc]
    rfl

/-! ## 3. One event -/

section

variable [Peripheral β]

/-- What counts of the bytes of a write is no address exactly if too few count or the buffer starts
with none. -/
theorem usable_ignored_iff (h : d.Sound config) (bus : β) (received : Nat) :
    ((d.usable bus received).length < 2 ∨
        config.size.toNat ≤ Plain.header (d.usable bus received)) ↔
      (min received (min (Peripheral.takeReceived bus d.scratch).count config.size.toNat) < 2 ∨
        config.size.toNat ≤ Plain.header (Peripheral.takeReceived bus d.scratch).buffer) := by
  have hlength : (d.usable bus received).length
      = min received (min (Peripheral.takeReceived bus d.scratch).count config.size.toNat) := by
    rw [usable, List.length_take, Peripheral.length_takeReceived, h.length_scratch, Nat.min_assoc]
  rw [← hlength]
  rcases Nat.lt_or_ge (d.usable bus received).length 2 with hl | hl
  · exact iff_of_true (.inl hl) (.inl hl)
  · have hcount : 2 ≤ min received (Peripheral.takeReceived bus d.scratch).count := by omega
    rw [usable, Plain.header_take hcount]

theorem drops_writeDone (h : d.Sound config) (bus : β) (received : Nat) :
    d.drops bus (.writeDone received) = true ↔
      d.staged ≠ some .receive ∨ (d.usable bus received).length < 2 ∨
        config.size.toNat ≤ Plain.header (d.usable bus received) := by
  rw [usable_ignored_iff h, drops, h.config_eq, decide_eq_true_eq]

/-- **An event that is dropped leaves one warning or error, and nothing else.**  There is one case
for each way to drop an event, and each has its own message. -/
theorem Sound.dropped (h : d.Sound config) {bus : β} {event : BusEvent}
    (hd : d.drops bus event) : (d.handle bus event).Dropped d := by
  cases event with
  | writeRequested =>
    rw [drops, h.config_eq, ← h.length_scratch, Bool.not_eq_true'] at hd
    change (d.openWrite bus).Dropped d
    rw [toServed_openWrite]
    exact opened_dropped d .receive (fun _ => rfl) hd
  | writeDone received =>
    change (d.closeWrite bus received).Dropped d
    by_cases hs : d.staged = some .receive
    · have hi := ((drops_writeDone h bus received).1 hd).resolve_left (not_not_intro hs)
      rw [← h.config_eq] at hi
      rw [closeWrite_of_receive hs]
      -- The bytes are judged by a device with another buffer, but the same contents and cursor.
      exact (acceptBytes_dropped (d := { d with
        staged := none, scratch := (Peripheral.takeReceived bus d.scratch).buffer })
        hi).transfer rfl rfl
    · rw [closeWrite_of_stray hs]
      exact ⟨⟨rfl, rfl, rfl⟩, _, rfl, rfl⟩
  | readRequested =>
    rw [drops, ← slice_cursor_eq h, Bool.not_eq_true'] at hd
    change (d.openRead bus).Dropped d
    rw [toServed_openRead]
    exact (opened_dropped _ (.transmit _) (fun _ => rfl) hd).transfer rfl rfl
  | readDone sent =>
    have hs : ∀ offered, d.staged ≠ some (.transmit offered) := by
      intro offered hs
      rw [drops, stagedRead?_eq_some_iff.2 hs] at hd
      cases hd
    change (d.closeRead bus sent).Dropped d
    rw [closeRead_of_stray hs]
    exact ⟨⟨rfl, rfl, rfl⟩, _, rfl, rfl⟩
  | fault fault => exact ⟨⟨rfl, rfl, rfl⟩, _, rfl, rfl⟩

/-- A write that is not dropped stores what is behind its address, without a warning.  Bytes that do
not fit are no reason for one. -/
theorem Sound.stores (h : d.Sound config) {bus : β} {received : Nat}
    (hk : d.drops bus (.writeDone received) = false) :
    (d.closeWrite bus received).graves = [] ∧
      ∃ stored, (d.closeWrite bus received).Stores d config.size.toNat
        (Plain.header (d.usable bus received)) ((d.usable bus received).drop 2) stored := by
  have hserved := mt (drops_writeDone h bus received).2 (Bool.not_eq_true _ ▸ hk)
  obtain ⟨hs, hi⟩ := not_or.1 hserved
  obtain ⟨hl, ha⟩ := not_or.1 hi
  have hfilled := (h.refill (Peripheral.length_takeReceived bus d.scratch)).unstage d.phase
  obtain ⟨hgraves, stored, hstores⟩ :=
    hfilled.acceptBytes_stores (Nat.not_lt.1 hl) (Nat.not_le.1 ha)
  rw [closeWrite_of_receive (Decidable.not_not.1 hs)]
  exact ⟨hgraves, stored, hstores.stored_eq, hstores.cells_eq, hstores.cursor_eq,
    hstores.notification_eq, hstores.dropped_eq, hstores.level_eq⟩

/-- **An event that is not dropped leaves no warning and no error**, unless it ends a read that
claims too much. -/
theorem Sound.graves_of_kept (h : d.Sound config) {bus : β} {event : BusEvent}
    (hk : d.drops bus event = false) (hc : d.overclaims event = false) :
    (d.handle bus event).graves = [] := by
  cases event with
  | writeRequested =>
    rw [drops, h.config_eq, ← h.length_scratch, Bool.not_eq_false'] at hk
    change (d.openWrite bus).graves = []
    rw [toServed_openWrite]
    exact graves_opened d .receive _ hk
  | writeDone received => exact (h.stores hk).1
  | readRequested =>
    rw [drops, ← slice_cursor_eq h, Bool.not_eq_false'] at hk
    change (d.openRead bus).graves = []
    rw [toServed_openRead]
    exact graves_opened _ (.transmit _) _ hk
  | readDone sent =>
    obtain ⟨offered, hoffered⟩ := Option.isSome_iff_exists.1 (Option.isNone_eq_false_iff.1 hk)
    have hle : ¬ offered < sent := by
      simpa only [overclaims, hoffered, Option.any_some, decide_eq_false_iff_not] using hc
    exact (graves_closeRead (stagedRead?_eq_some_iff.1 hoffered) bus sent).trans (if_neg hle)
  | fault fault => cases hk

section Observed

variable {η ω ε : Type} [Observer η ω] {handled : Handled β}

/-- Nobody is told of an event that completes no access.  That is so for every observer, as it is
not called at all. -/
theorem run_handle_of_none (observer : Option η) {bus : β} {event : BusEvent}
    (hh : d.handle bus event = handled) (hn : handled.notification = none) :
    (Link.handle event : Action (Link η β) ω ε Unit).run ⟨⟨d, observer⟩, bus⟩
      = ⟨.ok (), ⟨⟨handled.device, observer⟩, handled.bus⟩, handled.log.map .log⟩ := by
  simp only [Action.run, Link.handle, hh, hn]

/-- Whoever observes the device is told of the access after the messages of the event.  So a log
that is read along with reports has the messages first. -/
theorem trace_handle (observer : Option η) {bus : β} {event : BusEvent}
    (hh : d.handle bus event = handled) :
    ((Link.handle event : Action (Link η β) ω ε Unit).run ⟨⟨d, observer⟩, bus⟩).trace
      = handled.log.map .log ++ handled.notification.toList.flatMap fun n =>
          ((Target.notify n : Action (Target η) ω ε Unit).run
            ⟨handled.device, observer⟩).trace := by
  rcases hn : handled.notification with _ | n
  · rw [run_handle_of_none observer hh hn]
    exact (List.append_nil _).symm
  · simp only [Action.run, Link.handle, hh, hn, Option.toList, List.flatMap_singleton]

end Observed

end

/-- What the log tells of an event, and what it leaves. -/
structure Tells [Peripheral β] (d : Device) (bus : β) (event : BusEvent) (served : Served) :
    Prop where
  /-- An event that is dropped is logged once, as a warning or an error, and leaves nothing else. -/
  dropped : d.drops bus event → served.Dropped d
  /-- Any other is logged without, or it ends a read that claims too much. -/
  kept : d.drops bus event = false → d.overclaims event = false → served.graves = []
  /-- A read that claims too much is served as far as bytes were offered, with one warning. -/
  overread : ∀ sent offered, event = .readDone sent → d.staged = some (.transmit offered) →
    offered < sent →
      served.graves = [.overread sent offered] ∧ (LogEntry.overread sent offered).level = .warn ∧
        served.notification.toList.map Notification.completion
          = [⟨.read, d.cursor.toNat, offered⟩] ∧
        served.device.cursor.toNat = d.cursor.toNat + offered ∧ served.device.store = d.store
  /-- Of the bytes behind its address, a write stores those that fit, and the number of the others
  is logged. -/
  stores : ∀ received, event = .writeDone received → d.drops bus event = false →
    ∃ stored, served.Stores d d.config.size.toNat (Plain.header (d.usable bus received))
      ((d.usable bus received).drop 2) stored

theorem Sound.tells [Peripheral β] (h : d.Sound config) (bus : β) (event : BusEvent) :
    d.Tells bus event (d.handle bus event).toServed where
  dropped := h.dropped
  kept := h.graves_of_kept
  overread := by
    rintro sent offered rfl hs hlt
    have hsize := config.size.toNat_lt
    have hcursor := h.cursor_le
    have hoffered := h.staged_eq offered hs
    have hword : offered.toUInt16.toNat = offered := by
      rw [UInt16.toNat_ofNat', Nat.mod_eq_of_lt (by omega)]
    obtain ⟨log, hserved⟩ := closeRead_of_transmit hs bus sent
    refine ⟨(graves_closeRead hs bus sent).trans (if_pos hlt), rfl, ?_⟩
    change (d.closeRead bus sent).notification.toList.map _ = _ ∧
      (d.closeRead bus sent).device.cursor.toNat = _ ∧ (d.closeRead bus sent).device.store = _
    rw [hserved, Nat.min_eq_right (Nat.le_of_lt hlt)]
    refine ⟨?_, ?_, rfl⟩
    · simp only [Option.toList, List.map_cons, List.map_nil, Notification.completion, hword]
    · rw [UInt16.toNat_add, hword, Nat.mod_eq_of_lt (by omega)]
  stores := by
    rintro received rfl hk
    rw [h.config_eq]
    exact (h.stores hk).2

end Device

/-! ## 4. Any number of moves

Calls from inside are among them.  They deserve a message when they are refused or cut. -/

namespace Device

/-- The messages of any number of moves.  Each move is made on what the ones before it left. -/
def logOf (d : Device) : List Move → List LogEntry
  | [] => []
  | m :: moves => (d.move m).log ++ (d.move m).device.logOf moves

/-- The move deserves a warning or an error: an event that is dropped or claims too much, an access
from inside that is refused, or an image that does not fit. -/
def faulty (d : Device) : Move → Bool
  | @Move.event _ _ bus event => d.drops bus event || d.overclaims event
  | .write address bytes => !decide (address.toNat + bytes.length < d.store.size.toNat)
  | .read address length => !decide (address.toNat + length.toNat < d.store.size.toNat)
  | .readInto address buffer => !decide (address.toNat + buffer.length < d.store.size.toNat)
  | .load address image => !decide (image.length ≤ d.store.cells.length - address.toNat)

/-- How many of the moves deserve one.  Each is judged in the state that the moves before it have
left. -/
def faults (d : Device) : List Move → Nat
  | [] => 0
  | m :: moves => (d.faulty m).toNat + (d.move m).device.faults moves

theorem Sound.length_graves_event [Peripheral β] (h : d.Sound config) (bus : β)
    (event : BusEvent) :
    (d.handle bus event).graves.length = (d.drops bus event || d.overclaims event).toNat := by
  rcases hd : d.drops bus event with _ | _
  · rcases hc : d.overclaims event with _ | _
    · rw [h.graves_of_kept hd hc]
      rfl
    · cases event with
      | readDone sent =>
        obtain ⟨offered, hoffered, hlt⟩ := (Option.any_eq_true ..).1 hc
        rw [((h.tells bus _).overread sent offered rfl (stagedRead?_eq_some_iff.1 hoffered)
          (of_decide_eq_true hlt)).1]
        rfl
      | _ => cases hc
  · obtain ⟨entry, hg, hlog⟩ := (h.dropped hd).log_eq
    rw [Served.graves_of_log hg hlog]
    rfl

theorem length_graves_ite {fits : Prop} [Decidable fits] {quiet grave : List LogEntry}
    (hq : quiet.filter LogEntry.isGrave = [])
    (hg : (grave.filter LogEntry.isGrave).length = 1) :
    ((if fits then quiet else grave).filter LogEntry.isGrave).length = (!decide fits).toNat := by
  by_cases hf : fits
  · rw [if_pos hf, hq, decide_eq_true hf]
    rfl
  · rw [if_neg hf, hg, decide_eq_false hf]
    rfl

/-- **A move leaves one warning or error if it deserves one, and else none.**  For moves from
inside, being refused or cut is what deserves one. -/
theorem Sound.length_graves_move (h : d.Sound config) (m : Move) :
    (d.move m).graves.length = (d.faulty m).toNat := by
  cases m with
  | event bus event => exact h.length_graves_event bus event
  | write address bytes =>
    have hlog : (d.move (.write address bytes)).log
        = if address.toNat + bytes.length < d.store.size.toNat then [.stored bytes.length address]
          else [.refused ⟨address, bytes.length, d.store.size⟩] := by
      by_cases hb : address.toNat + bytes.length < d.store.size.toNat
      · simp only [Device.move, Device.inside, Action.run, Device.write, Store.write_eq, if_pos hb]
        rfl
      · simp only [Device.move, Device.inside, Action.run, Device.write, Store.write_eq, if_neg hb]
        rfl
    rw [Served.graves, hlog]
    exact length_graves_ite rfl rfl
  | read address length =>
    have hlog : (d.move (.read address length)).log
        = if address.toNat + length.toNat < d.store.size.toNat then []
          else [.refused ⟨address, length.toNat, d.store.size⟩] := by
      simp only [Device.move, Device.inside, Action.run, Device.read, Device.found, Store.read_eq]
      split <;> rfl
    rw [Served.graves, hlog]
    exact length_graves_ite rfl rfl
  | readInto address buffer =>
    have hlog : (d.move (.readInto address buffer)).log
        = if address.toNat + buffer.length < d.store.size.toNat then []
          else [.refused ⟨address, buffer.length, d.store.size⟩] := by
      simp only [Device.move, Device.inside, Action.run, Device.readInto, Device.found,
        Store.readInto_eq]
      split <;> rfl
    rw [Served.graves, hlog]
    exact length_graves_ite rfl rfl
  | load address image =>
    -- An image is never refused; being cut is what deserves the warning.
    rcases hw : d.store.writeTruncated address image with ⟨kept, store⟩
    have hkept : min image.length (d.store.cells.length - address.toNat) = kept :=
      congrArg Prod.fst hw
    have hlog : (d.move (.load address image)).log
        = if image.length ≤ d.store.cells.length - address.toNat then [.loaded kept address]
          else [.imageTruncated image.length kept address, .loaded kept address] := by
      by_cases hf : image.length ≤ d.store.cells.length - address.toNat
      · have hall : ¬ kept < image.length := by omega
        simp only [Device.move, Device.inside, Action.run, Device.load, hw, if_neg hall, if_pos hf]
        rfl
      · have hcut : kept < image.length := by omega
        simp only [Device.move, Device.inside, Action.run, Device.load, hw, if_pos hcut, if_neg hf]
        rfl
    rw [Served.graves, hlog]
    exact length_graves_ite rfl rfl

/-- **The log of any number of moves has as many warnings and errors as moves deserved one.**  By
induction over the moves, as each leaves a sound device. -/
theorem Sound.length_graves : ∀ (moves : List Move) {d : Device}, d.Sound config →
    ((d.logOf moves).filter LogEntry.isGrave).length = d.faults moves
  | [], _, _ => rfl
  | m :: moves, d, h => by
    rw [logOf, List.filter_append, List.length_append, faults, ← h.length_graves_move m,
      Sound.length_graves moves (h.move m)]
    rfl

end Device

/-- **No event is dropped in silence.**  In every reachable state the log tells of each event
whether it was dropped, and how much of a write did not fit; nobody is told of an event that was
dropped, and of any other whoever observes the device is told after its messages. -/
theorem dropped_events_are_logged {η ω : Type} [Observer η ω] [Peripheral β]
    (h : Reachable config d) (observer : Option η) (bus : β) (event : BusEvent) :
    let handled := d.handle bus event
    let outcome :=
      (Link.handle event : Action (Link η β) ω EepromError Unit).run ⟨⟨d, observer⟩, bus⟩
    let told (n : Notification) : List (Emission ω) :=
      ((Target.notify n : Action (Target η) ω EepromError Unit).run
        ⟨handled.device, observer⟩).trace
    d.Tells bus event handled.toServed ∧
      (d.drops bus event → ∃ entry : LogEntry, entry.isGrave ∧
        outcome = ⟨.ok (), ⟨⟨handled.device, observer⟩, handled.bus⟩, [.log entry]⟩) ∧
      outcome.trace = handled.log.map .log ++ handled.notification.toList.flatMap told := by
  intro handled outcome told
  refine ⟨h.sound.tells bus event, fun hd => ?_, Device.trace_handle observer rfl⟩
  obtain ⟨hsilent, entry, hg, hlog⟩ := h.sound.dropped hd
  refine ⟨entry, hg, (Device.run_handle_of_none observer rfl hsilent.notification_eq).trans ?_⟩
  rw [hlog]
  rfl

/-- Of two bytes written to the last address one is stored, and the other is told to be dropped.  A
fault of the bus drops the whole write. -/
theorem dropped_events_are_logged_at_end :
    let bus : ScriptedBus := { incoming := [0, 3, 5, 6] }
    let d := (Device.fresh { size := 4 }).after [.event bus .writeRequested]
    let served := d.handle bus (.writeDone 4)
    Reachable { size := 4 } d ∧ served.device.store.cells = [0, 0, 0, 5] ∧
      served.log = [.addressSet 3, .bytesDropped 1, .written 1 3] ∧ served.graves = [] ∧
      (d.handle bus (.fault .write)).Dropped d := by
  intro bus d served
  have hd : Reachable { size := 4 } d := Reachable.of_moves rfl _
  obtain ⟨hserved, -, -⟩ :=
    dropped_events_are_logged hd (none : Option Recorder) bus (.writeDone 4)
  obtain ⟨hfault, -, -⟩ :=
    dropped_events_are_logged hd (none : Option Recorder) bus (.fault .write)
  exact ⟨hd, rfl, rfl, hserved.kept rfl rfl, hfault.dropped rfl⟩

end SerialEeprom
