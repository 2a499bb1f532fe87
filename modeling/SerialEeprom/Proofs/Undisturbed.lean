/-
# The owner never disturbs the bus

What the owner of a device does can change what a controller reads, and nothing else.  This module
runs two devices side by side that may differ in every byte of their contents and of their buffers,
but not in how many there are.  On a simulated bus the far side sends the same to both, so whatever
passes through the buffers as an address is the same; and where a byte comes from the contents, it
goes to the far side only.

The two are of the same shape (`Device.SameShape`), and so are their buses, which may hold other
offered bytes, as many on both sides (`SimulatedBus.SameShape`).  An event keeps the shape, and what
it shows is a matter of shape: cursor, phase, what is staged, and the access that is notified
(`handle_sameShape`).

A controller could undo this by what it does with the bytes it reads.  It does not: its procedures
go on in the same way whatever they read, and give as many bytes (`Procedure.Alike`).  That is shown
along their structure, with a key of the result that has to agree, its length for a read and nothing
for a register.

From there on the two devices may just as well be one, with and without the calls of its owner,
since such a call keeps the shape (`SameShape.serve`).  Calls may be made between any two events of
any procedure, which is why procedures are played with gaps.

What a read delivers is not of that kind, and is stated apart: the bytes that the device held when
it had handled the request (`HeldAtRequest`).  What the owner writes between the request and its
completion comes too late for this read.

Main statement: whatever happens on the buses of a board, the calls of the owner may be left out
or put in anywhere between two events, and every event leaves the same cursor, phase and staged
buffer, every access is notified alike, and every call ends alike, with as many bytes; the bytes
of a read are those that the device held at the request (`owner_never_disturbs`).
-/
import SerialEeprom.Proofs.Buffer
import SerialEeprom.Proofs.Line

namespace SerialEeprom

/-! ## 1. Other bytes, and as many of them

Being of the same shape is an equivalence, and calls of the owner stay within it. -/

/-- The two differ in bytes only: in those of the contents and of the buffer.  All that an event
decides on is the same. -/
structure Device.SameShape (d e : Device) : Prop where
  config_eq : d.config = e.config
  size_eq : d.store.size = e.store.size
  length_cells : d.store.cells.length = e.store.cells.length
  cursor_eq : d.cursor = e.cursor
  phase_eq : d.phase = e.phase
  staged_eq : d.staged = e.staged
  length_scratch : d.scratch.length = e.scratch.length

/-- The two differ in bytes only: in those that the target offered.  What came in from the far side
is the same. -/
structure SimulatedBus.SameShape (bus other : SimulatedBus) : Prop where
  enabled_eq : bus.enabled = other.enabled
  failEnable_eq : bus.failEnable = other.failEnable
  fault_eq : bus.fault = other.fault
  incoming_eq : bus.incoming = other.incoming
  capacity_eq : bus.capacity = other.capacity
  length_offered : bus.offered.length = other.offered.length

/-- The two differ in bytes only, and complete the same access.  What is logged is not compared. -/
structure Served.SameShape (s t : Served) : Prop where
  device : s.device.SameShape t.device
  notification_eq : s.notification = t.notification

namespace Device.SameShape

variable {d e f : Device}

theorem refl (d : Device) : d.SameShape d :=
  ⟨rfl, rfl, rfl, rfl, rfl, rfl, rfl⟩

theorem symm (h : d.SameShape e) : e.SameShape d :=
  ⟨h.config_eq.symm, h.size_eq.symm, h.length_cells.symm, h.cursor_eq.symm, h.phase_eq.symm,
    h.staged_eq.symm, h.length_scratch.symm⟩

theorem trans (h : d.SameShape e) (h' : e.SameShape f) : d.SameShape f :=
  ⟨h.config_eq.trans h'.config_eq, h.size_eq.trans h'.size_eq,
    h.length_cells.trans h'.length_cells, h.cursor_eq.trans h'.cursor_eq,
    h.phase_eq.trans h'.phase_eq, h.staged_eq.trans h'.staged_eq,
    h.length_scratch.trans h'.length_scratch⟩

/-- The owner changes bytes only.  This is all that is used of its calls. -/
theorem serve (d : Device) (call : OwnerCall) : d.SameShape (d.serve call) := by
  obtain ⟨store, hsize, hcells, hserve⟩ := d.serve_eq call
  rw [hserve]
  exact { refl d with size_eq := hsize.symm, length_cells := hcells.symm }

theorem serveAll : ∀ (calls : List OwnerCall) (d : Device), d.SameShape (d.serveAll calls)
  | [], d => refl d
  | call :: calls, d => (serve d call).trans (serveAll calls (d.serve call))

end Device.SameShape

/-! ## 2. One event

Handler by handler, on two devices and two buses. -/

namespace SimulatedBus.SameShape

variable {bus other : SimulatedBus}

theorem refl (bus : SimulatedBus) : bus.SameShape bus :=
  ⟨rfl, rfl, rfl, rfl, rfl, rfl⟩

/-- What comes in has nothing to do with what was offered.  The two bytes of an address are among
what comes in. -/
theorem takeReceived_eq (h : bus.SameShape other) (buffer : List UInt8) :
    (Peripheral.takeReceived bus buffer).count = (Peripheral.takeReceived other buffer).count ∧
      (Peripheral.takeReceived bus buffer).buffer
        = (Peripheral.takeReceived other buffer).buffer := by
  simp only [Peripheral.takeReceived, SimulatedBus.takeReceived, h.capacity_eq, h.incoming_eq]
  split
  · exact ⟨rfl, rfl⟩
  · exact ⟨rfl, rfl⟩

/-- Handing over the bytes closes the bus, whatever buffer they go to.  Of the buffer, only its
length has a say in how many they are. -/
theorem takeReceived (h : bus.SameShape other) (buffer buffer' : List UInt8) :
    (Peripheral.takeReceived bus buffer).bus.SameShape
      (Peripheral.takeReceived other buffer').bus := by
  simp only [Peripheral.takeReceived, SimulatedBus.takeReceived, h.capacity_eq]
  split
  · exact h
  · exact { h with capacity_eq := rfl }

end SimulatedBus.SameShape

namespace Device

variable {d e : Device} {bus other : SimulatedBus}

theorem storePayload_sameShape (h : d.SameShape e) (address : UInt16) (payload : List UInt8) :
    (d.storePayload address payload).SameShape (e.storePayload address payload) := by
  unfold storePayload
  split
  · exact ⟨{ h with cursor_eq := rfl }, rfl⟩
  · simp only [Store.writeTruncated, h.length_cells]
    refine ⟨{ h with cursor_eq := rfl, length_cells := ?_ }, rfl⟩
    rw [length_overlay, length_overlay, h.length_cells]

theorem acceptBytes_sameShape (h : d.SameShape e) (bytes : List UInt8) :
    (d.acceptBytes bytes).SameShape (e.acceptBytes bytes) := by
  unfold acceptBytes
  split
  · simp only [h.config_eq]
    split
    · exact storePayload_sameShape h _ _
    · exact ⟨h, rfl⟩
  · exact ⟨h, rfl⟩

/-- The bytes of a write that count are those that the far side sent, whatever the two devices
hold. -/
theorem usable_sameShape (h : d.SameShape e) (hb : bus.SameShape other) (received : Nat) :
    d.usable bus received = e.usable other received := by
  -- Whatever was in the buffers, the bytes handed over are laid over it.
  obtain ⟨bytes, hbytes, -⟩ := bus.answersAlike.delivers d.scratch.length
  have hother : Delivers other e.scratch.length bytes := by
    refine ⟨h.length_scratch ▸ hbytes.1, fun buffer hlength => ?_⟩
    obtain ⟨hcount, hbuffer⟩ := hb.takeReceived_eq buffer
    rw [← hcount, ← hbuffer]
    exact hbytes.2 buffer (hlength.trans h.length_scratch.symm)
  rw [usable_eq hbytes, usable_eq hother]

theorem closeWrite_sameShape (h : d.SameShape e) (hb : bus.SameShape other) (received : Nat) :
    (d.closeWrite bus received).toServed.SameShape (e.closeWrite other received).toServed ∧
      (d.closeWrite bus received).bus.SameShape (e.closeWrite other received).bus := by
  by_cases hs : d.staged = some .receive
  · rw [closeWrite_of_receive hs, closeWrite_of_receive (h.staged_eq ▸ hs),
      usable_sameShape h hb]
    refine ⟨acceptBytes_sameShape ?_ _, hb.takeReceived ..⟩
    refine { h with staged_eq := rfl, length_scratch := ?_ }
    rw [Peripheral.length_takeReceived, Peripheral.length_takeReceived, h.length_scratch]
  · rw [closeWrite_of_stray hs, closeWrite_of_stray (h.staged_eq ▸ hs)]
    exact ⟨⟨{ h with staged_eq := rfl }, rfl⟩, hb⟩

theorem openWrite_sameShape (h : d.SameShape e) (hb : bus.SameShape other) :
    (d.openWrite bus).toServed.SameShape (e.openWrite other).toServed ∧
      (d.openWrite bus).bus.SameShape (e.openWrite other).bus := by
  simp only [openWrite, Peripheral.prepareReceive, SimulatedBus.ifEnabled]
  by_cases hup : bus.enabled.isSome
  · rw [if_pos hup, if_pos (hb.enabled_eq ▸ hup)]
    refine ⟨⟨{ h with phase_eq := rfl, staged_eq := rfl }, rfl⟩, { hb with capacity_eq := ?_ }⟩
    exact congrArg some h.length_scratch
  · rw [if_neg hup, if_neg (hb.enabled_eq ▸ hup)]
    exact ⟨⟨{ h with phase_eq := rfl, staged_eq := rfl }, rfl⟩, hb⟩

/-- As many bytes are found at the same cursor. -/
theorem openRead_sameShape (h : d.SameShape e) (hb : bus.SameShape other) :
    (d.openRead bus).toServed.SameShape (e.openRead other).toServed ∧
      (d.openRead bus).bus.SameShape (e.openRead other).bus := by
  have hfound : (d.store.slice d.cursor d.scratch.length).length
      = (e.store.slice e.cursor e.scratch.length).length := by
    rw [Store.length_slice, Store.length_slice, h.length_cells, h.cursor_eq, h.length_scratch]
  simp only [openRead, Store.readTruncated, Peripheral.offer, SimulatedBus.ifEnabled]
  by_cases hup : bus.enabled.isSome
  · rw [if_pos hup, if_pos (hb.enabled_eq ▸ hup)]
    refine ⟨⟨{ h with phase_eq := rfl, staged_eq := ?_, length_scratch := ?_ }, rfl⟩,
      { hb with length_offered := ?_ }⟩
    · exact congrArg (fun n => some (Staged.transmit n)) hfound
    · rw [length_overlay, length_overlay, h.length_scratch]
    · rw [List.length_take, List.length_take, length_overlay, length_overlay, hfound,
        h.length_scratch]
  · rw [if_neg hup, if_neg (hb.enabled_eq ▸ hup)]
    refine ⟨⟨{ h with phase_eq := rfl, staged_eq := rfl, length_scratch := ?_ }, rfl⟩, hb⟩
    rw [length_overlay, length_overlay, h.length_scratch]

theorem closeRead_sameShape (h : d.SameShape e) (hb : bus.SameShape other) (sent : Nat) :
    (d.closeRead bus sent).toServed.SameShape (e.closeRead other sent).toServed ∧
      (d.closeRead bus sent).bus.SameShape (e.closeRead other sent).bus := by
  simp only [closeRead, h.staged_eq]
  split
  · rename_i offered hs
    refine ⟨⟨{ h with phase_eq := rfl, staged_eq := rfl, cursor_eq := ?_ }, ?_⟩, hb⟩
    · exact congrArg (· + (min sent offered).toUInt16) h.cursor_eq
    · exact congrArg (fun address => some (⟨.read, address, _⟩ : Notification)) h.cursor_eq
  · exact ⟨⟨{ h with phase_eq := rfl, staged_eq := rfl }, rfl⟩, hb⟩

/-- **No event tells the bytes of a device apart from others.**  Only a write takes bytes from the
bus, and these are the same on both sides. -/
theorem handle_sameShape (h : d.SameShape e) (hb : bus.SameShape other) (event : BusEvent) :
    (d.handle bus event).toServed.SameShape (e.handle other event).toServed ∧
      (d.handle bus event).bus.SameShape (e.handle other event).bus := by
  cases event with
  | writeRequested => exact openWrite_sameShape h hb
  | writeDone received => exact closeWrite_sameShape h hb received
  | readRequested => exact openRead_sameShape h hb
  | readDone sent => exact closeRead_sameShape h hb sent
  | fault fault => exact ⟨⟨{ h with phase_eq := rfl, staged_eq := rfl }, rfl⟩, hb⟩

end Device

/-! ## 3. What a controller does

Nothing that it does depends on a byte it has read. -/

/-- The two procedures handle the same events and go on alike on buses that differ in bytes only,
and what they give has the same key. -/
inductive Procedure.Alike {α κ : Type} (key : α → κ) : Procedure α → Procedure α → Prop
  | done {r s : Except EepromError α} : r.map key = s.map key → Alike key (.done r) (.done s)
  | log {p q : Procedure α} (entry entry' : LogEntry) :
    Alike key p q → Alike key (.log entry p) (.log entry' q)
  | look {f g : SimulatedBus → Procedure α} :
    (∀ bus other, bus.SameShape other → Alike key (f bus) (g other)) →
      Alike key (.look f) (.look g)
  | change {f g : SimulatedBus → SimulatedBus} {p q : Procedure α} :
    (∀ bus other, bus.SameShape other → (f bus).SameShape (g other)) → Alike key p q →
      Alike key (.change f p) (.change g q)
  | handle {p q : Procedure α} (event : BusEvent) :
    Alike key p q → Alike key (.handle event p) (.handle event q)

namespace Procedure

variable {α γ κ μ : Type} {key : α → κ} {key' : γ → μ} {p q : Procedure α}

theorem Alike.pure {x y : α} (h : key x = key y) :
    Alike key (Pure.pure x : Procedure α) (Pure.pure y) :=
  .done (congrArg Except.ok h)

theorem Alike.bind {f g : α → Procedure γ} (h : Alike key p q)
    (hf : ∀ x y, key x = key y → Alike key' (f x) (g y)) :
    Alike key' (p >>= f) (q >>= g) := by
  change Alike key' (p.bind f) (q.bind g)
  induction h with
  | @done r s h =>
    rcases r with e | x
    · rcases s with e' | y
      · exact .done (congrArg Except.error (Except.error.inj h))
      · cases h
    · rcases s with e' | y
      · cases h
      · exact hf x y (Except.ok.inj h)
  | log entry entry' _ ih => exact .log entry entry' ih
  | look _ ih => exact .look ih
  | change hc _ ih => exact .change hc ih
  | handle event _ ih => exact .handle event ih

theorem signal_alike (event : BusEvent) : Alike id (signal event) (signal event) :=
  .log _ _ (.handle event (.done rfl))

theorem address_alike (request : BusEvent) : Alike id (address request) (address request) := by
  refine .look fun bus other h => ?_
  rw [h.enabled_eq, h.fault_eq]
  split
  · exact .done rfl
  · split
    · exact .done rfl
    · rename_i fault _
      refine .change (fun bus other h => { h with fault_eq := rfl }) ?_
      exact (signal_alike _).bind fun _ _ _ => (signal_alike _).bind fun _ _ _ => .done rfl

theorem send_alike (bytes : List UInt8) : Alike id (send bytes) (send bytes) := by
  refine .change (fun bus other h => { h with incoming_eq := rfl, capacity_eq := rfl }) ?_
  refine (address_alike _).bind fun _ _ _ => (signal_alike _).bind fun _ _ _ => ?_
  refine .look fun bus other h => ?_
  have hcount : Controller.accepted bus bytes.length = Controller.accepted other bytes.length := by
    simp only [Controller.accepted, h.capacity_eq]
  simp only [hcount]
  split
  · have hlog (entry : LogEntry) :
        Alike id (log entry (done (.ok ()))) (log entry (done (.ok ()))) := .log _ _ (.done rfl)
    exact (hlog _).bind fun _ _ _ => (signal_alike _).bind fun _ _ _ => .pure rfl
  · exact (signal_alike _).bind fun _ _ _ => .pure rfl

theorem receive_alike (length : Nat) : Alike List.length (receive length) (receive length) := by
  refine .change (fun bus other h => { h with length_offered := rfl }) ?_
  refine (address_alike _).bind fun _ _ _ => (signal_alike _).bind fun _ _ _ => ?_
  refine .look fun bus other h => ?_
  have hcount : (bus.offered.take length).length = (other.offered.take length).length := by
    rw [List.length_take, List.length_take, h.length_offered]
  refine .change (fun bus other h => { h with length_offered := rfl }) ?_
  rw [hcount]
  exact (signal_alike _).bind fun _ _ _ => .pure hcount

theorem seek_alike (target : UInt16) : Alike id (seek target) (seek target) :=
  (send_alike _).bind fun _ _ _ => .pure rfl

theorem read_alike (target : UInt16) (length : Nat) :
    Alike List.length (read target length) (read target length) :=
  (seek_alike target).bind fun _ _ _ => receive_alike length

theorem get_alike (size : UInt16) (r : Register) :
    Alike (fun _ => ()) (get size r) (get size r) := by
  unfold get
  split
  · exact .log _ _ (.done rfl)
  · refine (read_alike r.address 1).bind fun found found' h => ?_
    rcases found with _ | ⟨value, rest⟩
    · obtain rfl := List.length_eq_zero_iff.1 h.symm
      exact .done rfl
    · rcases found' with _ | ⟨value', rest'⟩
      · cases h
      · exact .pure rfl

end Procedure

theorem FarCall.procedure_alike (c : FarCall) :
    Procedure.Alike Response.size c.procedure c.procedure := by
  cases c with
  | send bytes =>
    exact (Procedure.send_alike bytes).bind fun _ _ h => .pure h
  | receive length =>
    exact (Procedure.receive_alike length).bind fun _ _ h => .pure h
  | seek address => exact (Procedure.seek_alike address).bind fun _ _ _ => .pure rfl
  | write address bytes => exact (Procedure.send_alike _).bind fun _ _ _ => .pure rfl
  | read address length =>
    exact (Procedure.read_alike address length).bind fun _ _ h => .pure h

theorem Adjustment.apply_sameShape (adjustment : Adjustment) {bus other : SimulatedBus}
    (h : bus.SameShape other) : (adjustment.apply bus).SameShape (adjustment.apply other) := by
  cases adjustment with
  | enable config =>
    simp only [apply, SimulatedBus.enable]
    by_cases hf : bus.failEnable
    · have hf' : other.failEnable := h.failEnable_eq ▸ hf
      rw [if_pos hf, if_pos hf']
      exact h
    · have hf' : ¬ other.failEnable := h.failEnable_eq ▸ hf
      rw [if_neg hf, if_neg hf']
      split
      · exact h
      · exact { h with enabled_eq := rfl }
  | failEnable fail => exact { h with failEnable_eq := rfl }
  | failNext fault => exact { h with fault_eq := rfl }
  | incoming bytes => exact { h with incoming_eq := rfl }

/-- **What happens on a bus does not depend on the bytes that are stored.**  A register may be found
or not, but that depends on the size. -/
theorem FarAct.procedure_alike (size : UInt16) (act : FarAct) :
    Procedure.Alike Response.size (act.procedure size) (act.procedure size) := by
  cases act with
  | adjust adjustment =>
    exact .change (fun _ _ h => adjustment.apply_sameShape h) (.done rfl)
  | event e => exact .handle e (.done rfl)
  | call c => exact c.procedure_alike
  | get register => exact (Procedure.get_alike size register).bind fun _ _ _ => .pure rfl

/-! ## 4. Runs

What is seen of a run, and that the owner has no part in it. -/

/-- What can be seen of a device when it has handled an event.  Its contents and its buffer are not
seen. -/
structure Glimpse where
  event : BusEvent
  cursor : UInt16
  phase : Phase
  staged : Option Staged
  notification : Option Notification
  deriving DecidableEq, Repr

/-- What can be seen of something that happens on a bus: what came of each event, and how it ends,
with the number of bytes in place of bytes. -/
structure Traffic where
  glimpses : List Glimpse
  outcome : Except EepromError Nat
  deriving DecidableEq, Repr

/-- What came of an event.  Bytes are left out, as the owner may change them. -/
def Served.glimpse (served : Served) (event : BusEvent) : Glimpse :=
  ⟨event, served.device.cursor, served.device.phase, served.device.staged, served.notification⟩

def Played.traffic (p : Played Response) : Traffic :=
  ⟨p.events.map fun e => e.2.glimpse e.1, p.result.map Response.size⟩

theorem Served.SameShape.glimpse_eq {s t : Served} (h : s.SameShape t) (event : BusEvent) :
    s.glimpse event = t.glimpse event := by
  rw [glimpse, glimpse, h.device.cursor_eq, h.device.phase_eq, h.device.staged_eq,
    h.notification_eq]

/-- **Calls of the owner make no difference but in bytes**, neither those between the events of a
procedure nor those before it. -/
theorem Procedure.Alike.play {α κ : Type} {key : α → κ} {p q : Procedure α} (h : Alike key p q)
    (gaps gaps' : List (List OwnerCall)) {d e : Device} (hd : d.SameShape e)
    {bus other : SimulatedBus} (hb : bus.SameShape other) :
    let s := p.play gaps d bus
    let t := q.play gaps' e other
    (s.events.map fun e => e.2.glimpse e.1) = (t.events.map fun e => e.2.glimpse e.1) ∧
      s.result.map key = t.result.map key ∧
      s.device.SameShape t.device ∧ s.bus.SameShape t.bus := by
  induction h generalizing gaps gaps' d e bus other with
  | done hr => exact ⟨rfl, hr, hd, hb⟩
  | log entry entry' _ ih => exact ih gaps gaps' hd hb
  | look _ ih => exact ih _ _ hb gaps gaps' hd hb
  | change hc _ ih => exact ih gaps gaps' hd (hc _ _ hb)
  | handle event _ ih =>
    -- The two owners may have made different calls, so the step goes by way of `d` and `e`.
    have hserved : (d.serveAll (gaps.headD [])).SameShape (e.serveAll (gaps'.headD [])) :=
      (Device.SameShape.serveAll _ d).symm.trans (hd.trans (Device.SameShape.serveAll _ e))
    obtain ⟨hhandled, hbus⟩ := Device.handle_sameShape hserved hb event
    obtain ⟨hglimpses, hrest⟩ := ih gaps.tail gaps'.tail hhandled.device hbus
    exact ⟨congrArg₂ List.cons (hhandled.glimpse_eq event) hglimpses, hrest⟩

/-- One thing done to a board: the owner makes a call, or something happens on the bus with this
number and the owner makes calls before its events. -/
inductive Turn where
  | inside (call : OwnerCall)
  | far (place : Nat) (act : FarAct) (gaps : List (List OwnerCall))
  deriving DecidableEq, Repr

namespace Turn

/-- What remains without the owner. -/
def alone : Turn → Option Turn
  | inside _ => none
  | far place act _ => some (far place act [])

/-- The bus it is about. -/
def place : Turn → Option Nat
  | inside _ => none
  | far number _ _ => some number

end Turn

namespace Board

variable {b c : Board}

/-- Let something happen on a bus, with calls of the owner before its events.  Where the list of
calls is shorter than the events, there are none before the others. -/
def played (b : Board) (place : Nat) (act : FarAct) (gaps : List (List OwnerCall)) :
    Played Response :=
  (act.procedure b.device.config.size).play gaps b.device (b.buses place)

/-- The board when this was played on a bus. -/
def left (b : Board) (place : Nat) (p : Played Response) : Board :=
  ⟨p.device, Function.update b.buses place p.bus⟩

/-- The traffic of one turn after the other, and what they leave.  A turn of the owner alone has no
traffic. -/
def run (b : Board) : List Turn → List Traffic × Board
  | [] => ([], b)
  | .inside call :: turns => run { b with device := b.device.serve call } turns
  | .far place act gaps :: turns =>
    let p := b.played place act gaps
    let later := run (b.left place p) turns
    (p.traffic :: later.1, later.2)

/-- The two differ in bytes only.  So do the devices, and the buses place by place. -/
structure SameShape (b c : Board) : Prop where
  device : b.device.SameShape c.device
  bus : ∀ place, (b.buses place).SameShape (c.buses place)

theorem SameShape.refl (b : Board) : b.SameShape b :=
  ⟨.refl _, fun _ => .refl _⟩

theorem SameShape.played (h : b.SameShape c) (place : Nat) (act : FarAct)
    (gaps gaps' : List (List OwnerCall)) :
    (b.played place act gaps).traffic = (c.played place act gaps').traffic ∧
      (b.left place (b.played place act gaps)).SameShape
        (c.left place (c.played place act gaps')) := by
  have halike := act.procedure_alike b.device.config.size
  simp only [Board.played, ← h.device.config_eq]
  obtain ⟨hglimpses, hresult, hdevice, hbus⟩ := halike.play gaps gaps' h.device (h.bus place)
  exact ⟨congrArg₂ Traffic.mk hglimpses hresult, hdevice, update_alike h.bus place hbus⟩

/-- Leaving out the owner leaves the traffic as it is.  By induction over the turns, on two boards
of the same shape. -/
theorem SameShape.run : ∀ (turns : List Turn) {b c : Board}, b.SameShape c →
    (b.run turns).1 = (c.run (turns.filterMap Turn.alone)).1
  | [], _, _, _ => rfl
  | .inside call :: turns, _, _, h =>
    SameShape.run turns ⟨(Device.SameShape.serve _ call).symm.trans h.device, h.bus⟩
  | .far place act gaps :: turns, _, _, h =>
    have hplayed := h.played place act gaps []
    congrArg₂ List.cons hplayed.1 (SameShape.run turns hplayed.2)

theorem reachable_run {config : DeviceConfig} : ∀ (turns : List Turn) {b : Board},
    Reachable config b.device → Reachable config (b.run turns).2.device
  | [], _, h => h
  | .inside call :: turns, _, h => reachable_run turns (b := ⟨_, _⟩) (h.serve call)
  | .far _ act _ :: turns, _, h => reachable_run turns (b := ⟨_, _⟩) (h.play (act.procedure _))

/-- What happens elsewhere leaves a bus alone. -/
theorem buses_run {place : Nat} : ∀ (turns : List Turn) {b : Board},
    (∀ t ∈ turns, t.place ≠ some place) → (b.run turns).2.buses place = b.buses place
  | [], _, _ => rfl
  | .inside call :: turns, b, h =>
    buses_run turns (b := { b with device := b.device.serve call })
      fun t ht => h t (List.mem_cons_of_mem _ ht)
  | .far other act gaps :: turns, b, h => by
    have hother : place ≠ other := fun hp => h _ List.mem_cons_self (congrArg some hp.symm)
    have hrest := buses_run turns (b := b.left other (b.played other act gaps))
      fun t ht => h t (List.mem_cons_of_mem _ ht)
    exact hrest.trans (Function.update_of_ne hother ..)

end Board

/-! ## 5. What a read delivers

The bytes themselves, for which the contents matter after all. -/

/-- The last two of these events are a read, and these bytes are those, up to so many, that the
device held from its cursor on when it had handled the request. -/
def HeldAtRequest (events : List (BusEvent × Served)) (length : Nat) (bytes : List UInt8) : Prop :=
  ∃ earlier opened count closed,
    events = earlier ++ [(.readRequested, opened), (.readDone count, closed)] ∧
      bytes = (opened.device.store.cells.drop opened.device.cursor.toNat).take length

section

variable {config : DeviceConfig} {d : Device} {bus : SimulatedBus}

/-- The bytes are taken at the request, and what the owner writes afterwards comes too late.  What
the owner writes before the request is read. -/
theorem Procedure.receive_delivers (h : Reachable config d) (hb : bus.line.obstacle = none)
    (gaps : List (List OwnerCall)) (length : Nat) :
    let p := (receive length).play gaps d bus
    ∃ bytes, p.result = .ok bytes ∧ HeldAtRequest p.events length bytes := by
  intro p
  let asked := d.serveAll (gaps.headD [])
  let cleared : SimulatedBus := { bus with offered := [] }
  let opened := asked.handle cleared .readRequested
  let bytes := opened.bus.offered.take length
  let late := opened.device.serveAll (gaps.tail.headD [])
  let closed := late.handle { opened.bus with offered := [] } (.readDone bytes.length)
  have hcleared : cleared.line.obstacle = none := hb
  have hp : p = ⟨.ok bytes, closed.device, closed.bus,
      [(.readRequested, opened.toServed), (.readDone bytes.length, closed.toServed)]⟩ := by
    change (address .readRequested >>= _).play gaps d cleared = _
    rw [play_bind, address_of_free .readRequested gaps d hcleared]
    rfl
  have hready := SimulatedBus.ready_iff.2 hcleared
  -- The offer is taken from the contents at the request, which the first gap has left.
  have hopened : opened = _ :=
    Device.openRead_simulated (h.serveAll (gaps.headD [])).sound hready.enabled
  have hoffered : opened.bus.offered
      = opened.device.store.cells.drop opened.device.cursor.toNat := by
    rw [hopened]
  rw [hp]
  exact ⟨bytes, rfl, [], opened.toServed, bytes.length, closed.toServed, rfl, by rw [← hoffered]⟩

/-- So it is where the cursor was moved before. -/
theorem Procedure.read_delivers (h : Reachable config d) (hb : bus.line.obstacle = none)
    (gaps : List (List OwnerCall)) (target : UInt16) (length : Nat) :
    let p := (read target length).play gaps d bus
    ∃ bytes, p.result = .ok bytes ∧ HeldAtRequest p.events length bytes := by
  intro p
  let sought := (seek target).play gaps d bus
  obtain ⟨⟨u, hsought⟩, hline⟩ := (seek_addressed target).smooth gaps d bus hb
  have hfree : sought.bus.line.obstacle = none := hline ▸ hb
  obtain ⟨bytes, hresult, earlier, opened, count, closed, hevents, hbytes⟩ :=
    receive_delivers (h.play (seek target)) hfree (gaps.drop sought.events.length) length
  have hp : p = _ := (play_bind ..).trans (Played.andThen_of_ok hsought _)
  rw [hp]
  refine ⟨bytes, hresult, sought.events ++ earlier, opened, count, closed, ?_, hbytes⟩
  rw [List.append_assoc, ← hevents]

/-- The length that is asked for in a call that ends with a read.  Other calls deliver nothing. -/
def FarCall.reads : FarCall → Option Nat
  | receive length => some length
  | read _ length => some length
  | _ => none

theorem FarCall.delivers (h : Reachable config d) (hb : bus.line.obstacle = none)
    (gaps : List (List OwnerCall)) {c : FarCall} {length : Nat} (hc : c.reads = some length) :
    let p := c.procedure.play gaps d bus
    ∃ bytes, p.result = .ok (.bytes bytes) ∧ HeldAtRequest p.events length bytes := by
  cases c with
  | receive n =>
    obtain rfl : n = length := Option.some.inj hc
    obtain ⟨bytes, hresult, hheld⟩ := Procedure.receive_delivers h hb gaps n
    rw [procedure, Procedure.play_map, hresult]
    exact ⟨bytes, rfl, hheld⟩
  | read address n =>
    obtain rfl : n = length := Option.some.inj hc
    obtain ⟨bytes, hresult, hheld⟩ := Procedure.read_delivers h hb gaps address n
    rw [procedure, Procedure.play_map, hresult]
    exact ⟨bytes, rfl, hheld⟩
  | send bytes => cases hc
  | seek address => cases hc
  | write address bytes => cases hc

/-- Without a controller, the bytes stay on the bus until the far side takes them. -/
theorem offered_of_request (h : Reachable config d) (hup : bus.enabled.isSome)
    (gaps : List (List OwnerCall)) (size : UInt16) :
    (((FarAct.event .readRequested).procedure size).play gaps d bus).bus.offered
      = (d.serveAll (gaps.headD [])).store.cells.drop d.cursor.toNat := by
  have hopened := Device.openRead_simulated (h.serveAll (gaps.headD [])).sound hup
  have hcursor := (Device.SameShape.serveAll (gaps.headD []) d).cursor_eq
  rw [hcursor]
  exact congrArg (fun s : Handled SimulatedBus => s.bus.offered) hopened

end

/-! ## 6. The whole of it -/

/-- **The owner never disturbs the bus.**  A turn without the owner is a step of the board; what
can be seen of the traffic on all buses is the same without the owner's calls as with them, and
what a read delivers is what the device held when it was requested, be it read by a controller or
left on the bus for whoever takes it. -/
theorem owner_never_disturbs :
    (∀ (b : Board) (place : Nat) (act : FarAct),
      let p := b.played place act []
      b.step (.far place act) = ⟨p.result, p.told.map Prod.snd, b.left place p⟩) ∧
    (∀ (b : Board) (turns : List Turn),
      (b.run turns).1 = (b.run (turns.filterMap Turn.alone)).1) ∧
    ∀ {config : DeviceConfig} {b : Board}, Reachable config b.device →
      ∀ (turns : List Turn) (place : Nat) (gaps : List (List OwnerCall)),
        let now := (b.run turns).2
        ((now.buses place).Ready → ∀ (c : FarCall) (length : Nat), c.reads = some length →
          let p := now.played place (.call c) gaps
          ∃ bytes, p.result = .ok (.bytes bytes) ∧ HeldAtRequest p.events length bytes) ∧
        ((now.buses place).enabled.isSome → ∀ later : List Turn,
          (∀ t ∈ later, t.place ≠ some place) →
            let p := now.played place (.event .readRequested) gaps
            (((now.left place p).run later).2.buses place).offered
              = (now.device.serveAll (gaps.headD [])).store.cells.drop
                now.device.cursor.toNat) := by
  refine ⟨Board.step_far, fun b turns => Board.SameShape.run turns (.refl b), ?_⟩
  intro config b h turns place gaps now
  have hnow : Reachable config now.device := Board.reachable_run turns h
  constructor
  · intro hb c length hc
    exact FarCall.delivers hnow (SimulatedBus.ready_iff.1 hb) gaps hc
  · intro hup later hlater p
    have hleft : (now.left place p).buses place = p.bus := Function.update_self ..
    rw [Board.buses_run later hlater, hleft]
    exact offered_of_request hnow hup gaps _

/-- The owner writes while a controller reads, and while a raw write is open; the read gives what
was there when it was requested. -/
theorem owner_never_disturbs_open_transactions :
    let config : DeviceConfig := { size := 8 }
    let b : Board := ⟨(Device.fresh config).after [.load 0 [1, 2, 3, 4, 5, 6, 7, 8]],
      fun _ => { enabled := some config.bus, incoming := [0, 5, 9] }⟩
    let turns : List Turn :=
      [.far 0 (.event .writeRequested) [[.snapshot]], .inside (.write 6 [7, 7]),
        .far 0 (.event (.writeDone 3)) [[.load 5 [0, 0]], [.read 0 9]]]
    let gaps : List (List OwnerCall) :=
      [[], [.write 0 [5]], [.load 2 [6, 6]], [.load 2 [8, 8, 8, 8, 8, 8], .write 7 [1]]]
    let now := (b.run turns).2
    let p := now.played 1 (.call (.read 2 3)) gaps
    Reachable config b.device ∧ now.device.snapshot = [1, 2, 3, 4, 5, 9, 0, 8] ∧
      p.result = .ok (.bytes [6, 6, 5]) ∧ p.device.snapshot = [5, 2, 8, 8, 8, 8, 8, 8] ∧
      (b.run turns).1 = (b.run (turns.filterMap Turn.alone)).1 ∧
      ∃ bytes, p.result = .ok (.bytes bytes) ∧ HeldAtRequest p.events 3 bytes := by
  intro config b turns gaps now p
  have hd : Reachable config b.device := .of_moves rfl _
  have hready : (now.buses 1).Ready := ⟨rfl, rfl⟩
  obtain ⟨-, htraffic, hdelivers⟩ := owner_never_disturbs
  have hread := (hdelivers hd turns 1 gaps).1 hready (.read 2 3) 3 rfl
  exact ⟨hd, by decide +kernel, by decide +kernel, by decide +kernel, htraffic b turns, hread⟩

end SerialEeprom
