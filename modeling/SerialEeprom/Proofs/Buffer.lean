/-
# What was in the buffer before plays no part

All transactions of a device share one buffer, and nothing ever clears it: at each request it still
holds what the last transaction left there.  This module runs two devices side by side that differ
in those bytes only.  Their peripherals may be of different kinds; all that is asked of them is to
answer alike (`AnswersAlike`), and of the bytes that come in to be put at the start of the buffer
and to be counted truly (`Delivers`).

The difference is kept, not lost, from move to move: after each of them the two devices differ in
the bytes of their buffers at most (`Served.Alike`), though perhaps in other bytes than before.
What a device shows is read off everything else.

* At the end of a write the buffer is filled from its start, by the same bytes on both sides, and as
  many count as were filled in (`usable_eq`).  What stood behind them is different, and does not
  count.
* At a read the offered bytes are laid over the buffer and taken from its start again, so nothing
  that was there before is offered (`offered_eq`).

The count has to be true: one that is too high lets leftover bytes into the contents, as the last
example shows.  The two peripherals of this library count truly, the scripted one if it is not told
to claim another number.

Main statement: whatever happens to the two, and in whatever order, nobody can tell them apart, be
it by their contents, cursors, notifications, messages or by what they ask of their peripherals
(`sights_eq_of_refilled`).
-/
import Mathlib.Data.List.Forall2
import SerialEeprom.Proofs.Accounts
import SerialEeprom.Proofs.Calls

namespace SerialEeprom

variable {β γ : Type} [Peripheral β] [Peripheral γ] {bus : β} {other : γ} {d : Device}
  {m : Move} {s t : Served} {scratch bytes : List UInt8}

/-! ## 1. Peripherals that answer alike -/

/-- These bytes came in, and into a buffer of this length they are put as they should be: they take
its first places, the rest of it stays as it was, and they are counted truly. -/
def Delivers (bus : β) (length : Nat) (bytes : List UInt8) : Prop :=
  bytes.length ≤ length ∧ ∀ buffer : List UInt8, buffer.length = length →
    (Peripheral.takeReceived bus buffer).count = bytes.length ∧
      (Peripheral.takeReceived bus buffer).buffer = overlay buffer 0 bytes

/-- Both peripherals accept the same, refuse the rest for the same reasons, and deliver the same
bytes, whatever was in the buffer. -/
structure AnswersAlike (bus : β) (other : γ) : Prop where
  prepareReceive_eq : ∀ room,
    (Peripheral.prepareReceive bus room).1 = (Peripheral.prepareReceive other room).1
  offer_eq : ∀ bytes, (Peripheral.offer bus bytes).1 = (Peripheral.offer other bytes).1
  delivers : ∀ length, ∃ bytes, Delivers bus length bytes ∧ Delivers other length bytes

/-- A peripheral that delivers into every buffer answers as it would over any other one.  So a
device may be compared with itself over the same peripheral. -/
theorem AnswersAlike.of_delivers (h : ∀ length, ∃ bytes, Delivers bus length bytes) :
    AnswersAlike bus bus where
  prepareReceive_eq _ := rfl
  offer_eq _ := rfl
  delivers length := by
    obtain ⟨bytes, hbytes⟩ := h length
    exact ⟨bytes, hbytes, hbytes⟩

/-- Laying bytes over a buffer, and counting those that fit, is to deliver them.  This is what
either peripheral of the library does. -/
theorem delivers_of_overlay (items : List UInt8)
    (h : ∀ buffer : List UInt8,
      (Peripheral.takeReceived bus buffer).count = min items.length buffer.length ∧
        (Peripheral.takeReceived bus buffer).buffer = overlay buffer 0 items) (length : Nat) :
    Delivers bus length (items.take length) := by
  refine ⟨List.length_take_le .., fun buffer hb => ?_⟩
  obtain ⟨hcount, hbuffer⟩ := h buffer
  have hlength : (items.take length).length = min items.length buffer.length := by
    rw [List.length_take, hb, Nat.min_comm]
  refine ⟨hcount.trans hlength.symm, hbuffer.trans (overlay_take buffer items ?_).symm⟩
  rw [Nat.sub_zero, hb]

theorem SimulatedBus.answersAlike (bus : SimulatedBus) : AnswersAlike bus bus := by
  refine .of_delivers fun length => ?_
  rcases hc : bus.capacity with _ | capacity
  · refine ⟨_, delivers_of_overlay [] (fun buffer => ?_) length⟩
    simp only [Peripheral.takeReceived, takeReceived, hc, overlay_nil, List.length_nil,
      Nat.zero_min, and_self]
  · refine ⟨_, delivers_of_overlay (bus.incoming.take capacity) (fun buffer => ?_) length⟩
    simp only [Peripheral.takeReceived, takeReceived, hc, and_self]

theorem ScriptedBus.answersAlike {bus : ScriptedBus} (h : bus.claim = none) :
    AnswersAlike bus bus := by
  refine .of_delivers fun length => ⟨_, delivers_of_overlay bus.incoming (fun buffer => ?_) length⟩
  simp only [Peripheral.takeReceived, h, Option.getD_none, and_self]

/-! ## 2. One move

Each handler is run on both devices; the one place where the buffers are looked at is the end of a
write. -/

/-- The same with other bytes in the buffer.  What was served stays the same otherwise. -/
def Served.refill (served : Served) (scratch : List UInt8) : Served :=
  { served with device := { served.device with scratch } }

/-- The two differ in the bytes of their buffers only.  The buffers are still of one length, which
the next request will ask for. -/
def Served.Alike (s t : Served) : Prop :=
  ∃ scratch, scratch.length = s.device.scratch.length ∧ t = s.refill scratch

namespace Device

theorem opened_alike (d : Device) (hs : scratch.length = d.scratch.length) (staged : Staged)
    (refused : String → LogEntry) (answer : Except String Unit) :
    (d.opened staged refused answer).Alike
      (({ d with scratch } : Device).opened staged refused answer) := by
  cases answer with
  | ok _ => exact ⟨scratch, hs, rfl⟩
  | error reason => exact ⟨scratch, hs, rfl⟩

/-- Of the bytes delivered, those count that the event speaks of; what the buffer held before is
not among them. -/
theorem usable_eq (h : Delivers bus d.scratch.length bytes) (received : Nat) :
    d.usable bus received = bytes.take received := by
  obtain ⟨hcount, hbuffer⟩ := h.2 d.scratch rfl
  calc d.usable bus received
      = (overlay d.scratch 0 bytes).take (min received bytes.length) := by
        rw [usable, hcount, hbuffer]
    _ = ((overlay d.scratch 0 bytes).take bytes.length).take received := List.take_take.symm
    _ = bytes.take received := by rw [take_overlay_zero h.1]

/-- Serving the bytes of a write passes the buffer on as it is.  The bytes that count were taken out
of it before. -/
theorem acceptBytes_refill (d : Device) (scratch bytes : List UInt8) :
    ({ d with scratch } : Device).acceptBytes bytes = (d.acceptBytes bytes).refill scratch := by
  unfold acceptBytes
  split
  · dsimp only
    split
    · unfold storePayload
      split
      · rfl
      · rfl
    · rfl
  · rfl

theorem scratch_acceptBytes (d : Device) (bytes : List UInt8) :
    (d.acceptBytes bytes).device.scratch = d.scratch :=
  congrArg (fun s : Served => s.device.scratch) (d.acceptBytes_refill d.scratch bytes)

theorem closeWrite_alike (hs : scratch.length = d.scratch.length) (h : AnswersAlike bus other)
    (received : Nat) :
    (d.closeWrite bus received).toServed.Alike
      (({ d with scratch } : Device).closeWrite other received).toServed := by
  by_cases hstaged : d.staged = some .receive
  · obtain ⟨bytes, hbus, hother⟩ := h.delivers d.scratch.length
    have hother : Delivers other ({ d with scratch } : Device).scratch.length bytes := by
      rw [hs]
      exact hother
    rw [closeWrite_of_receive hstaged,
      closeWrite_of_receive (d := { d with scratch }) hstaged, usable_eq hbus, usable_eq hother]
    refine ⟨(Peripheral.takeReceived other scratch).buffer, ?_, ?_⟩
    · rw [scratch_acceptBytes, Peripheral.length_takeReceived, Peripheral.length_takeReceived, hs]
    · exact acceptBytes_refill { d with
        staged := none, scratch := (Peripheral.takeReceived bus d.scratch).buffer } _ _
  · rw [closeWrite_of_stray hstaged, closeWrite_of_stray (d := { d with scratch }) hstaged]
    exact ⟨scratch, hs, rfl⟩

/-- **An event leaves two such devices as alike as they were.**  The bytes in which they differ may
be others than before, but they are still in the buffers. -/
theorem handle_alike (hs : scratch.length = d.scratch.length) (h : AnswersAlike bus other)
    (event : BusEvent) :
    (d.handle bus event).toServed.Alike
      (({ d with scratch } : Device).handle other event).toServed := by
  cases event with
  | writeRequested =>
    simp only [handle, toServed_openWrite, hs, h.prepareReceive_eq]
    exact d.opened_alike hs ..
  | writeDone received => exact closeWrite_alike hs h received
  | readRequested =>
    simp only [handle, toServed_openRead, hs, h.offer_eq]
    refine opened_alike { d with scratch := _ } ?_ ..
    rw [length_overlay, length_overlay, hs]
  | readDone sent =>
    simp only [handle, closeRead]
    split
    · exact ⟨scratch, hs, rfl⟩
    · exact ⟨scratch, hs, rfl⟩
  | fault fault => exact ⟨scratch, hs, rfl⟩

theorem inside_alike (hs : scratch.length = d.scratch.length) (hm : m.isEvent = false) :
    (d.move m).Alike (({ d with scratch } : Device).move m) := by
  obtain ⟨store, log, hmove⟩ := d.move_inside hm
  rw [hmove d rfl, hmove { d with scratch } rfl]
  exact ⟨scratch, hs, rfl⟩

/-! ## 3. What can be seen -/

/-- What the device asks of a peripheral in this move.  From inside it asks for nothing. -/
def asks (d : Device) : Move → List BusCall
  | @Move.event _ _ bus event => d.calls bus event
  | _ => []

end Device

/-- What a move shows of a device: its contents, cursor and phase afterwards, the access that is
notified, the messages, and what was asked of the peripheral, offered bytes included. -/
structure Sight where
  store : Store
  cursor : UInt16
  phase : Phase
  notification : Option Notification
  log : List LogEntry
  calls : List BusCall
  deriving DecidableEq, Repr

/-- What is seen of the device when this is served, these calls being made. -/
def Served.sight (served : Served) (calls : List BusCall) : Sight :=
  ⟨served.device.store, served.device.cursor, served.device.phase, served.notification,
    served.log, calls⟩

/-- What is seen of the device at each of these moves.  The device itself, which has the buffer in
it, is not seen. -/
def Device.sights (d : Device) : List Move → List Sight
  | [] => []
  | m :: moves => (d.move m).sight (d.asks m) :: (d.move m).device.sights moves

/-- The same thing happens, on the bus with the same answers.  From inside it is the same move. -/
inductive Move.Same : Move → Move → Prop
  | event {β γ : Type} [Peripheral β] [Peripheral γ] {bus : β} {other : γ} (event : BusEvent) :
    AnswersAlike bus other → Same (.event bus event) (.event other event)
  | inside {m : Move} : m.isEvent = false → Same m m

theorem Served.Alike.sight_eq (h : s.Alike t) (calls : List BusCall) :
    s.sight calls = t.sight calls := by
  obtain ⟨scratch, -, rfl⟩ := h
  rfl

/-- The calls are settled by the length of the buffer.  Its bytes are offered only where they were
read into it before. -/
theorem Device.asked_refilled (hs : scratch.length = d.scratch.length) (event : BusEvent) :
    ({ d with scratch } : Device).asked event = d.asked event := by
  cases event with
  | writeRequested => simp only [asked, hs]
  | writeDone received => simp only [asked, hs]
  | readRequested => simp only [asked, hs]
  | readDone sent => rfl
  | fault fault => rfl

theorem Move.Same.move_alike {n : Move} (h : m.Same n) (hs : scratch.length = d.scratch.length) :
    (d.move m).Alike (({ d with scratch } : Device).move n) ∧
      d.asks m = ({ d with scratch } : Device).asks n := by
  cases h with
  | event event h =>
    refine ⟨Device.handle_alike hs h event, ?_⟩
    simp only [Device.asks, Device.calls_eq, Device.asked_refilled hs]
  | inside hm =>
    refine ⟨Device.inside_alike hs hm, ?_⟩
    cases m with
    | event bus event => cases hm
    | _ => rfl

/-- **What was in the buffer before plays no part.**  Two devices that differ in the bytes of their
buffers only cannot be told apart, whatever happens to both of them. -/
theorem sights_eq_of_refilled {moves others : List Move} (h : List.Forall₂ Move.Same moves others)
    (d : Device) (hs : scratch.length = d.scratch.length) :
    d.sights moves = ({ d with scratch } : Device).sights others := by
  -- A move may leave other differences than it found, so the induction is over all pairs of
  -- buffers.
  induction h generalizing d scratch with
  | nil => rfl
  | cons hsame _ ih =>
    obtain ⟨halike, hasks⟩ := hsame.move_alike hs
    obtain ⟨left, hleft, hmove⟩ := id halike
    simp only [Device.sights, halike.sight_eq, hasks]
    rw [hmove]
    exact congrArg _ (ih _ hleft)

/-- Room was made for a write when the buffers come to differ, and a read follows it.  The read
offers what was stored, and none of the bytes in which the buffers differed. -/
theorem sights_eq_of_refilled_while_open :
    let bus : ScriptedBus := { incoming := [0, 1, 5] }
    let d := (Device.fresh { size := 4 }).after [.event bus .writeRequested]
    let other : Device := { d with scratch := [9, 8, 7, 6] }
    let moves : List Move :=
      [.event bus (.writeDone 99), .event bus .readRequested, .write 0 [3],
        .event bus (.readDone 2)]
    List.Forall₂ Move.Same moves moves ∧ d.scratch = [0, 0, 0, 0] ∧
      d.sights moves = other.sights moves ∧
      (other.sights moves).map Sight.cursor = [2, 2, 2, 4] ∧
      (other.sights moves).map (fun s => s.store.cells)
        = [[0, 5, 0, 0], [0, 5, 0, 0], [3, 5, 0, 0], [3, 5, 0, 0]] := by
  intro bus d other moves
  have halike : AnswersAlike bus bus := ScriptedBus.answersAlike rfl
  have hsame : List.Forall₂ Move.Same moves moves :=
    .cons (.event _ halike) (.cons (.event _ halike) (.cons (.inside rfl)
      (.cons (.event _ halike) .nil)))
  exact ⟨hsame, rfl, sights_eq_of_refilled hsame d rfl, by decide +kernel, by decide +kernel⟩

/-- A count that is too high lets what was left in the buffer into the contents. -/
example :
    let bus : ScriptedBus := { incoming := [0, 1], claim := some 4 }
    let d := (Device.fresh { size := 4 }).after [.event bus .writeRequested]
    let other : Device := { d with scratch := [9, 8, 7, 6] }
    (d.handle bus (.writeDone 4)).device.store.cells = [0, 0, 0, 0] ∧
      (other.handle bus (.writeDone 4)).device.store.cells = [0, 7, 6, 0] := by
  decide +kernel

end SerialEeprom
