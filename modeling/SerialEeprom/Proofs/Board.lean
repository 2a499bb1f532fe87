/-
# A device in use

Two sides use a device: its owner, from inside, and the controllers around it, each on a simulated
bus of its own.  This module lists what they can ask for, as data, and says what comes of one step
after the other.  The device is watched by a recorder, so that every access it notifies is known.

Calls are data here so that statements can quantify over them: over every call, every list of steps,
every way in which two sides take turns.  `OwnerCall.run` and `FarCall.run` turn them into the
actions they stand for, and add nothing of their own, so what is proved of a step is proved of the
action.

A board has as many buses as there are numbers (`Board.buses`).  Most of them are never used; what
matters is that there is more than one, since a device forgets on one bus what it began on another.

The owner's side is settled at once.  A call of the owner looks at nothing but the contents, and of
the device it changes nothing but their bytes (`Device.ContentsOnly`): not the cursor, not what is
staged, not the size.  So a call from inside can be left out of any question about the state of the
bus side, and its result can be found on any device with the same contents.

Main statement: all calls of the owner are of that kind (`OwnerCall.contentsOnly`).
-/
import Mathlib.Logic.Function.Basic
import SerialEeprom.Proofs.Accounts
import SerialEeprom.Register

namespace SerialEeprom

/-- What a call gives if it does not fail, for calls of every kind.  Calls can then be kept in one
list, and their results compared. -/
inductive Response where
  | done
  | count (n : Nat)
  | bytes (bytes : List UInt8)
  deriving DecidableEq, Repr

/-- The number of bytes in a response. -/
def Response.size : Response → Nat
  | .done => 0
  | .count n => n
  | .bytes items => items.length

/-! ## 1. The owner

Each call is one action; that it only concerns the contents is shown action by action and kept by
mapping the result and by logging behind it. -/

/-- A call of the owner.  These are all that the library offers from inside, and the setting of
registers. -/
inductive OwnerCall where
  | read (address length : UInt16)
  | readInto (address : UInt16) (buffer : List UInt8)
  | write (address : UInt16) (bytes : List UInt8)
  | load (address : UInt16) (image : List UInt8)
  | snapshot
  /-- Set a control register. -/
  | set (register : Register) (value : UInt8)
  deriving DecidableEq, Repr

/-- Do what the owner asks for.  These are the actions of the library and no others. -/
def OwnerCall.run {ω : Type} : OwnerCall → Action Device ω EepromError Response
  | read address length => .bytes <$> Device.read address length
  | readInto address buffer => .bytes <$> Device.readInto address buffer
  | write address bytes => (fun _ => .done) <$> Device.write address bytes
  | load address image => .count <$> Device.load address image
  | snapshot => (fun d => .bytes d.snapshot) <$> Action.get
  | set register value => (fun _ => .done) <$> register.set value

/-- What the action gives depends on the contents only, and of the device it changes nothing but
their bytes. -/
structure Device.ContentsOnly {ω α : Type} (a : Action Device ω EepromError α) : Prop where
  result_eq : ∀ d e : Device, d.store = e.store → (a.run d).result = (a.run e).result
  state_eq : ∀ d e : Device, d.store = e.store →
    (a.run d).state = { d with store := (a.run e).state.store }
  size_eq : ∀ d : Device, (a.run d).state.store.size = d.store.size ∧
    (a.run d).state.store.cells.length = d.store.cells.length

namespace Device.ContentsOnly

variable {ω α γ : Type} {a : Action Device ω EepromError α}

theorem map (h : ContentsOnly a) (f : α → γ) : ContentsOnly (f <$> a) where
  result_eq d e hs := by rw [Action.run_map, Action.run_map, h.result_eq d e hs]
  state_eq d e hs := by rw [Action.run_map, Action.run_map]; exact h.state_eq d e hs
  size_eq d := by rw [Action.run_map]; exact h.size_eq d

theorem log {a : Action Device ω EepromError Unit} (h : ContentsOnly a) (entry : LogEntry) :
    ContentsOnly (a >>= fun _ => Action.log entry) where
  result_eq d e hs := by
    rw [(Action.run_log_after a entry d).1, (Action.run_log_after a entry e).1]
    exact h.result_eq d e hs
  state_eq d e hs := by
    rw [(Action.run_log_after a entry d).2, (Action.run_log_after a entry e).2]
    exact h.state_eq d e hs
  size_eq d := by
    rw [(Action.run_log_after a entry d).2]
    exact h.size_eq d

/-- A strict access that changes nothing.  It looks at the contents only, and leaves a message if it
is refused. -/
theorem found (r : Store → Except OutOfBounds α) :
    ContentsOnly fun d => (Device.found (r d.store) d : Outcome Device ω EepromError α) where
  result_eq d e hs := by simp only [Action.run, Device.found, hs]
  state_eq d e hs := by simp only [Action.run, Device.found, ← hs]
  size_eq d := ⟨rfl, rfl⟩

theorem get (f : Store → α) :
    ContentsOnly ((fun d => f d.store) <$> (Action.get : Action Device ω EepromError Device)) where
  result_eq d e hs := by
    rw [Action.run_map, Action.run_map]
    exact congrArg (fun s => Except.ok (f s)) hs
  state_eq d e hs := by
    rw [Action.run_map, Action.run_map]
    simp only [Action.run, Action.get, ← hs]
  size_eq d := ⟨rfl, rfl⟩

theorem write (address : UInt16) (bytes : List UInt8) :
    ContentsOnly (Device.write address bytes : Action Device ω EepromError Unit) where
  result_eq d e hs := by
    simp only [Action.run, Device.write, hs]
    rcases e.store.write address bytes with access | after
    · rfl
    · rfl
  state_eq d e hs := by
    simp only [Action.run, Device.write, hs]
    rcases e.store.write address bytes with access | after
    · simp only [← hs]
    · rfl
  size_eq d := by
    rcases hw : d.store.write address bytes with access | after
    · simp only [Action.run, Device.write, hw, and_self]
    · obtain ⟨-, hafter⟩ := Store.write_eq_ok_iff.1 hw
      simp only [Action.run, Device.write, hw, hafter, length_overlay, and_self]

theorem load (address : UInt16) (image : List UInt8) :
    ContentsOnly (Device.load address image : Action Device ω EepromError Nat) where
  result_eq d e hs := by simp only [Action.run, Device.load, hs]
  state_eq d e hs := by simp only [Action.run, Device.load, hs]
  size_eq d := ⟨rfl, Store.length_cells_writeTruncated ..⟩

end Device.ContentsOnly

/-- **A call of the owner depends on the contents only, and changes nothing but their bytes.**  One
case for each call; a register is set by a write and a message. -/
theorem OwnerCall.contentsOnly {ω : Type} (call : OwnerCall) :
    Device.ContentsOnly (call.run : Action Device ω EepromError Response) := by
  cases call with
  | read address length => exact (Device.ContentsOnly.found (·.read address length)).map _
  | readInto address buffer => exact (Device.ContentsOnly.found (·.readInto address buffer)).map _
  | write address bytes => exact (Device.ContentsOnly.write address bytes).map _
  | load address image => exact (Device.ContentsOnly.load address image).map _
  | snapshot => exact Device.ContentsOnly.get fun s => Response.bytes s.cells
  | set register value =>
    exact ((Device.ContentsOnly.write register.address [value]).log _).map _

namespace Device

/-- What is left of a device after a call of its owner.  Its result is left out: a call that is
refused leaves what was there. -/
def serve (d : Device) (call : OwnerCall) : Device :=
  ((call.run : Action Device Empty EepromError Response).run d).state

/-- What is left of a device after some calls of its owner.  A call that fails leaves the device to
the next as it was. -/
def serveAll (d : Device) (calls : List OwnerCall) : Device :=
  calls.foldl serve d

/-- Contents of the same size are all that a call of the owner puts in place of what was there.  So
the other fields of the device are known without looking at the call. -/
theorem serve_eq (d : Device) (call : OwnerCall) :
    ∃ store : Store, store.size = d.store.size ∧ store.cells.length = d.store.cells.length ∧
      d.serve call = { d with store } :=
  have h := call.contentsOnly (ω := Empty)
  ⟨_, (h.size_eq d).1, (h.size_eq d).2, h.state_eq d d rfl⟩

/-- A call of the owner is a move, or no more than a look.  A snapshot changes nothing, and setting
a register is to write one byte. -/
theorem serve_eq_move (d : Device) (call : OwnerCall) :
    d.serve call = d ∨ ∃ m : Move, m.isEvent = false ∧ d.serve call = (d.move m).device := by
  cases call with
  | read address length => exact .inl (by rw [serve, OwnerCall.run, Action.run_map]; rfl)
  | readInto address buffer => exact .inl (by rw [serve, OwnerCall.run, Action.run_map]; rfl)
  | write address bytes =>
    refine .inr ⟨.write address bytes, rfl, ?_⟩
    rw [serve, OwnerCall.run, Action.run_map]
    rfl
  | load address image =>
    refine .inr ⟨.load address image, rfl, ?_⟩
    rw [serve, OwnerCall.run, Action.run_map]
    rfl
  | snapshot => exact .inl (by rw [serve, OwnerCall.run, Action.run_map]; rfl)
  | set register value =>
    refine .inr ⟨.write register.address [value], rfl, ?_⟩
    rw [serve, OwnerCall.run, Action.run_map]
    exact (Action.run_log_after ..).2

end Device

theorem Reachable.serve {config : DeviceConfig} {d : Device} (h : Reachable config d)
    (call : OwnerCall) : Reachable config (d.serve call) := by
  rcases d.serve_eq_move call with hd | ⟨m, -, hd⟩
  · rw [hd]
    exact h
  · rw [hd]
    exact h.moved m

theorem Reachable.serveAll {config : DeviceConfig} : ∀ (calls : List OwnerCall) {d : Device},
    Reachable config d → Reachable config (d.serveAll calls)
  | [], _, h => h
  | call :: calls, _, h => Reachable.serveAll calls (h.serve call)

/-! ## 2. The controllers

Beside the calls, what a bus does by itself: it is set up, told to fail, and reports events that no
controller asked for. -/

/-- A call of a controller.  The first two are transactions, the others are made of these. -/
inductive FarCall where
  | send (bytes : List UInt8)
  | receive (length : Nat)
  | seek (address : UInt16)
  | write (address : UInt16) (bytes : List UInt8)
  | read (address : UInt16) (length : Nat)
  deriving DecidableEq, Repr

/-- Something done to a simulated bus from its far side.  The last one puts bytes there which no
call has asked to be written. -/
inductive Adjustment where
  | enable (config : BusConfig)
  | failEnable (fail : Bool)
  | failNext (fault : BusFault)
  | incoming (bytes : List UInt8)
  deriving DecidableEq, Repr

/-- Whatever can happen on one bus.  Single events are among it, so a transaction may be begun and
never ended. -/
inductive FarAct where
  | adjust (adjustment : Adjustment)
  /-- The peripheral reports an event by itself. -/
  | event (event : BusEvent)
  | call (call : FarCall)
  /-- A client asks for a control register. -/
  | get (register : Register)
  deriving DecidableEq, Repr

/-- The bus with something done to it.  The device is not asked. -/
def Adjustment.apply : Adjustment → SimulatedBus → SimulatedBus
  | enable config, bus => (bus.enable config).2
  | failEnable fail, bus => { bus with failEnable := fail }
  | failNext fault, bus => { bus with fault := some fault }
  | incoming bytes, bus => { bus with incoming := bytes }

section

variable {η ω : Type} [Observer η ω]

/-- Do what a controller asks for. -/
def FarCall.run : FarCall → Controller.Call η ω Response
  | send bytes => .count <$> Controller.send bytes
  | receive length => .bytes <$> Controller.receive length
  | seek address => (fun _ => .done) <$> Controller.seek address
  | write address bytes => (fun _ => .done) <$> Controller.write address bytes
  | read address length => .bytes <$> Controller.read address length

/-- Let it happen. -/
def FarAct.run : FarAct → Controller.Call η ω Response
  | adjust adjustment => (fun _ => .done) <$> Link.modifyBus adjustment.apply
  | event e => (fun _ => .done) <$> Link.handle e
  | call c => c.run
  | get register => (fun value => .bytes [value]) <$> register.get

end

/-! ## 3. Both of them -/

/-- One thing that is done with a device.  Steps follow one another; what happens within a step is
the subject of procedures. -/
inductive Step where
  | inside (call : OwnerCall)
  /-- On the bus with this number. -/
  | far (place : Nat) (act : FarAct)
  deriving DecidableEq, Repr

/-- A device, and the simulated buses it can be reached by. -/
structure Board where
  device : Device
  buses : Nat → SimulatedBus

/-- What a step gives, which accesses were notified, and what it leaves.  A step is never without a
result, but the result may be an error. -/
structure Passed where
  result : Except EepromError Response
  notified : List Notification
  board : Board

namespace Board

/-- Whoever hears of the accesses on a board.  It only records, so nothing on the board depends on
it. -/
def listener : Recorder :=
  ⟨"listener", .plain⟩

/-- What the listener reports are the accesses it is told of.  So reports on a board stand for
notifications. -/
theorem hear_listener (told : List (Device × Notification)) :
    ((Observer.hear (some listener) told).2).map Record.notification = told.map Prod.snd := by
  rw [listener, Recorder.hear_plain, List.map_map]
  rfl

/-- The device on the bus with this number. -/
def link {η : Type} (b : Board) (place : Nat) (observer : Option η) : Link η SimulatedBus :=
  ⟨⟨b.device, observer⟩, b.buses place⟩

/-- Do one thing.  Events that peripherals report reach the device while it is watched; calls of the
owner notify nobody. -/
def step (b : Board) : Step → Passed
  | .inside call =>
    let outcome := (call.run : Action Device Empty EepromError Response).run b.device
    ⟨outcome.result, [], { b with device := outcome.state }⟩
  | .far place act =>
    let outcome := act.run.run (b.link place (some listener))
    ⟨outcome.result, outcome.reports.map Record.notification,
      ⟨outcome.state.target.device, Function.update b.buses place outcome.state.bus⟩⟩

/-- Buses that are alike in every place stay so when one place is given buses that are.  In which
sense they are alike is for the user to say. -/
theorem update_alike {R : SimulatedBus → SimulatedBus → Prop} {buses others : Nat → SimulatedBus}
    (h : ∀ place, R (buses place) (others place)) (place : Nat) {bus other : SimulatedBus}
    (hb : R bus other) (number : Nat) :
    R (Function.update buses place bus number) (Function.update others place other number) := by
  by_cases hn : number = place
  · subst hn
    rw [Function.update_self, Function.update_self]
    exact hb
  · rw [Function.update_of_ne hn, Function.update_of_ne hn]
    exact h number

/-- What is left after one step after the other.  Steps on different buses may come in any order. -/
def after (b : Board) (steps : List Step) : Board :=
  steps.foldl (fun b s => (b.step s).board) b

end Board

end SerialEeprom
