/-
# The states a device can get into

Between two events from its peripherals a device may be accessed from inside.  A `Move` is either:
an event from a peripheral of any kind, in whatever state it is then, or one access.  `Reachable`
is what any number of moves makes of a new device.

Nothing is assumed of a peripheral.  It refuses when it likes, fills the buffer as it likes, its
counts may be wrong, and no completion need follow a request.  Each event may even come from another
peripheral than the one before it, of another kind.  So what is proved of all reachable devices
holds on every bus, be it one that goes wrong.

What all of them have in common is `Device.Sound`.  The contents and the scratch buffer keep the
size of the device, the cursor stays within it, and bytes staged for a controller are all those from
the cursor on.  The bound on the cursor needs the last part: the end of a read adds a number that
was fixed at its request, and only because the cursor cannot move in between does the sum stay
within the device.  The last part in turn is kept because whatever moves the cursor, the end of a
write or of a read, takes down what is staged.

Each handler keeps the invariant, put together from four small changes that do: new contents of the
same size (`Sound.put`), nothing staged (`Sound.unstage`), another buffer of the same length
(`Sound.refill`), and another cursor while no read is staged (`Sound.seek`).

Main statement: every reachable state is sound (`Reachable.sound`).
-/
import SerialEeprom.Device.Transaction

namespace SerialEeprom

variable {α β : Type} {config : DeviceConfig} {d : Device}

/-! ## 1. Moves -/

/-- One thing that can happen to a device.  An event comes with the peripheral as it is then, which
need not be the one of the last event. -/
inductive Move : Type 1 where
  | event {β : Type} [Peripheral β] (bus : β) (event : BusEvent)
  | write (address : UInt16) (bytes : List UInt8)
  | read (address length : UInt16)
  | readInto (address : UInt16) (buffer : List UInt8)
  | load (address : UInt16) (image : List UInt8)

/-- The move is an event of a peripheral, and not an access from inside. -/
def Move.isEvent : Move → Bool
  | @Move.event .. => true
  | _ => false

/-- What an access from inside leaves.  It completes nothing on the bus.  Its result is not kept
here; only what it leaves and logs is. -/
def Device.inside (d : Device) (access : Action Device Empty EepromError α) : Served :=
  let outcome := access.run d
  ⟨outcome.state, none, outcome.logs⟩

/-- What a move leaves.  Of an event, what it leaves of the peripheral is dropped: the next event
brings its own. -/
def Device.move (d : Device) : Move → Served
  | @Move.event _ _ bus event => (d.handle bus event).toServed
  | .write address bytes => d.inside (Device.write address bytes)
  | .read address length => d.inside (Device.read address length)
  | .readInto address buffer => d.inside (Device.readInto address buffer)
  | .load address image => d.inside (Device.load address image)

/-- An access from inside sees the contents only, and changes nothing else.  What it leaves of one
device it leaves of any other with these contents. -/
theorem Device.move_inside (d : Device) {m : Move} (hm : m.isEvent = false) :
    ∃ (store : Store) (log : List LogEntry), ∀ other : Device, other.store = d.store →
      other.move m = ⟨{ other with store }, none, log⟩ := by
  cases m with
  | event bus event => cases hm
  | write address bytes =>
    rcases hw : d.store.write address bytes with access | store
    · refine ⟨d.store, [.refused access], fun other h => ?_⟩
      simp only [move, inside, Action.run, write, h, hw]
      rw [← h]
      rfl
    · refine ⟨store, [.stored bytes.length address], fun other h => ?_⟩
      simp only [move, inside, Action.run, write, h, hw]
      rfl
  | read address length =>
    refine ⟨d.store, (d.move (.read address length)).log, fun other h => ?_⟩
    simp only [move, inside, Action.run, read, found, ← h]
    rfl
  | readInto address buffer =>
    refine ⟨d.store, (d.move (.readInto address buffer)).log, fun other h => ?_⟩
    simp only [move, inside, Action.run, readInto, found, ← h]
    rfl
  | load address image =>
    refine ⟨(d.store.writeTruncated address image).2, (d.move (.load address image)).log,
      fun other h => ?_⟩
    simp only [move, inside, Action.run, load, ← h]
    rfl

/-- What is left of a device after any number of moves. -/
def Device.after (d : Device) (moves : List Move) : Device :=
  moves.foldl (fun d m => (d.move m).device) d

/-- A device made with this set-up can get into this state.  It has been made, and then any number
of moves have happened to it. -/
inductive Reachable (config : DeviceConfig) : Device → Prop where
  | created {d : Device} :
    ((Device.create config : Action Unit Empty EepromError Device).run ()).result = .ok d →
      Reachable config d
  | moved {d : Device} : Reachable config d → ∀ m : Move, Reachable config (d.move m).device

/-- A set-up that is accepted makes a device, with nothing in it and nothing open.  One that is not
accepted makes none. -/
theorem create_eq_ok_iff :
    ((Device.create config : Action Unit Empty EepromError Device).run ()).result = .ok d ↔
      config.validate = .ok () ∧ d = Device.fresh config := by
  unfold Device.create
  split
  · rename_i fault hv
    constructor
    · intro h; cases h
    · rintro ⟨h, -⟩; rw [hv] at h; cases h
  · rename_i hv
    constructor
    · intro h; exact ⟨hv, (Except.ok.inj h).symm⟩
    · rintro ⟨-, rfl⟩; rfl

theorem Reachable.after : ∀ (moves : List Move) {d : Device},
    Reachable config d → Reachable config (d.after moves)
  | [], _, h => h
  | m :: moves, _, h => Reachable.after moves (h.moved m)

/-- Whatever an event leaves can be reached.  So an invariant of reachable devices may be used in
the middle of a transaction. -/
theorem Reachable.handled [Peripheral β] (h : Reachable config d) {bus : β} {event : BusEvent}
    {handled : Handled β} (hh : d.handle bus event = handled) : Reachable config handled.device :=
  hh ▸ h.moved (.event bus event)

theorem Reachable.of_moves (hv : config.validate = .ok ()) (moves : List Move) :
    Reachable config ((Device.fresh config).after moves) :=
  Reachable.after moves (.created (create_eq_ok_iff.2 ⟨hv, rfl⟩))

/-! ## 2. The invariant

With the changes that keep it, whoever makes them. -/

/-- What every reachable state has in common.  The phase is not mentioned, as nothing depends on
it. -/
structure Device.Sound (config : DeviceConfig) (d : Device) : Prop where
  config_eq : d.config = config
  size_eq : d.store.size = config.size
  length_cells : d.store.cells.length = config.size.toNat
  length_scratch : d.scratch.length = config.size.toNat
  cursor_le : d.cursor.toNat ≤ config.size.toNat
  /-- All bytes from the cursor on were offered, and the cursor has not moved since. -/
  staged_eq : ∀ n, d.staged = some (.transmit n) → n = config.size.toNat - d.cursor.toNat

namespace Device.Sound

theorem fresh (config : DeviceConfig) : Sound config (Device.fresh config) where
  config_eq := rfl
  size_eq := rfl
  length_cells := Store.length_cells_zeroed config.size
  length_scratch := List.length_replicate
  cursor_le := Nat.zero_le _
  staged_eq := by intro n h; cases h

/-- Contents of the same size may take the place of the old ones at any time.  Nothing else in the
invariant speaks of the contents. -/
theorem put (h : Sound config d) (store : Store) (hs : store.size = d.store.size)
    (hc : store.cells.length = d.store.cells.length) : Sound config { d with store } where
  config_eq := h.config_eq
  size_eq := hs.trans h.size_eq
  length_cells := hc.trans h.length_cells
  length_scratch := h.length_scratch
  cursor_le := h.cursor_le
  staged_eq := h.staged_eq

/-- Whatever is staged may be dropped at any time.  The invariant asks for nothing where nothing is
staged. -/
theorem unstage (h : Sound config d) (phase : Phase) :
    Sound config { d with phase, staged := none } :=
  { h with staged_eq := by intro n hn; cases hn }

/-- The buffer may be filled with anything of its length.  Its bytes are no part of what makes a
device sound. -/
theorem refill (h : Sound config d) {scratch : List UInt8}
    (hs : scratch.length = d.scratch.length) : Sound config { d with scratch } :=
  { h with length_scratch := hs.trans h.length_scratch }

/-- With nothing staged for a read, the cursor may go anywhere within the device.  Where something
is staged for a read, it is what stands behind the cursor. -/
theorem seek (h : Sound config d) (hn : ∀ n, d.staged ≠ some (.transmit n)) {cursor : UInt16}
    (hc : cursor.toNat ≤ config.size.toNat) : Sound config { d with cursor } :=
  { h with
    cursor_le := hc
    staged_eq := by intro n hs; exact absurd hs (hn n) }

/-! ## 3. Accesses from inside -/

theorem inside_write (h : Sound config d) (address : UInt16) (bytes : List UInt8) :
    Sound config (d.inside (Device.write address bytes)).device := by
  unfold Device.inside Action.run Device.write
  split
  · rename_i store hw
    obtain ⟨-, rfl⟩ := Store.write_eq_ok_iff.1 hw
    exact h.put _ rfl (length_overlay ..)
  · exact h

theorem inside_load (h : Sound config d) (address : UInt16) (image : List UInt8) :
    Sound config (d.inside (Device.load address image)).device :=
  h.put _ rfl (Store.length_cells_writeTruncated ..)

/-! ## 4. Events

A request stages anew what was staged before, so what it replaces does not matter. -/

/-- The end of what fits is in the device, and the sum that reaches it does not overflow.  What fits
is at most the size less the address, and the size is a word. -/
theorem storePayload (h : Sound config d) (hn : ∀ n, d.staged ≠ some (.transmit n))
    {address : UInt16} (ha : address < config.size) (payload : List UInt8) :
    Sound config (d.storePayload address payload).device := by
  have hsize := config.size.toNat_lt
  have ha : address.toNat < config.size.toNat := UInt16.lt_iff_toNat_lt.1 ha
  unfold Device.storePayload
  split
  · exact h.seek hn (Nat.le_of_lt ha)
  · have hcells := h.length_cells
    have hput := h.put (d.store.writeTruncated address payload).2 rfl
      (Store.length_cells_writeTruncated ..)
    refine hput.seek hn ?_
    simp only [Store.writeTruncated, hcells, UInt16.toNat_add, UInt16.toNat_ofNat']
    omega

theorem acceptBytes (h : Sound config d) (hn : ∀ n, d.staged ≠ some (.transmit n))
    (bytes : List UInt8) : Sound config (d.acceptBytes bytes).device := by
  unfold Device.acceptBytes
  split
  · rename_i high low payload
    dsimp only
    split
    · rename_i ha
      rw [h.config_eq] at ha
      exact h.storePayload hn ha payload
    · exact h
  · exact h

theorem closeRead (h : Sound config d) (bus : β) (sent : Nat) :
    Sound config (d.closeRead bus sent).device := by
  have hsize := config.size.toNat_lt
  have hcursor := h.cursor_le
  unfold Device.closeRead
  split
  · rename_i offered hs
    have hoffered := h.staged_eq offered hs
    refine (h.unstage .idle).seek (by intro n hn; cases hn) ?_
    simp only [UInt16.toNat_add, UInt16.toNat_ofNat']
    omega
  · exact h.unstage .idle

variable [Peripheral β]

theorem openWrite (h : Sound config d) (bus : β) : Sound config (d.openWrite bus).device := by
  unfold Device.openWrite
  split
  · exact { h with staged_eq := by intro n hn; cases hn }
  · exact h.unstage .operation

theorem closeWrite (h : Sound config d) (bus : β) (received : Nat) :
    Sound config (d.closeWrite bus received).device := by
  unfold Device.closeWrite
  split
  · refine acceptBytes ?_ (by intro n hn; cases hn) _
    exact (h.refill (Peripheral.length_takeReceived ..)).unstage d.phase
  · exact h.unstage d.phase

theorem openRead (h : Sound config d) (bus : β) : Sound config (d.openRead bus).device := by
  have hbuffer := h.refill (Store.length_readTruncated d.store d.cursor d.scratch)
  simp only [Device.openRead, Store.readTruncated] at hbuffer ⊢
  split
  · refine { hbuffer with staged_eq := ?_ }
    intro n hn
    obtain rfl := Staged.transmit.inj (Option.some.inj hn)
    have := h.cursor_le
    simp only [Store.slice, List.length_take, List.length_drop, h.length_cells, h.length_scratch]
    omega
  · exact hbuffer.unstage .operation

theorem handle (h : Sound config d) (bus : β) (event : BusEvent) :
    Sound config (d.handle bus event).device := by
  cases event with
  | writeRequested => exact h.openWrite bus
  | writeDone received => exact h.closeWrite bus received
  | readRequested => exact h.openRead bus
  | readDone sent => exact h.closeRead bus sent
  | fault fault => exact h.unstage .idle

/-! ## 5. Every reachable state -/

theorem move (h : Sound config d) (m : Move) : Sound config (d.move m).device := by
  cases m with
  | event bus event => exact h.handle bus event
  | write address bytes => exact h.inside_write address bytes
  | read address length => exact h
  | readInto address buffer => exact h
  | load address image => exact h.inside_load address image

end Device.Sound

/-- **Every reachable state is sound.**  By induction over the moves, of which each keeps the
invariant. -/
theorem Reachable.sound (h : Reachable config d) : d.Sound config := by
  induction h with
  | created hc =>
    obtain ⟨-, rfl⟩ := create_eq_ok_iff.1 hc
    exact Device.Sound.fresh config
  | moved _ m ih => exact ih.move m

end SerialEeprom
