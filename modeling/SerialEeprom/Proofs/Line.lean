/-
# Whether a bus answers

A controller addresses its target before each transaction, and what the target answers is decided
by the line alone: the bus has to be up, and no fault may be pending (`Line.obstacle`).  A device
never touches the line, whatever it handles (`Device.handle_line`); the one thing that does is an
abort, which spends the fault.

So whether a call fails can be told before it is made.  A procedure is smooth if with nothing in the
way it ends well and leaves the line as it was (`Procedure.Smooth`).  Everything that a controller
does is smooth, built from pieces that are; and as the line stays free from one transaction to the
next, a procedure of several transactions is not interrupted between them.  It is addressed if
besides it fails at its start when something is in the way (`Procedure.Addressed`), and that is a
property of its first transaction alone.

What a failed call leaves is more than nothing.  On a bus that is down the device has not noticed
anything.  On one that is up it has seen a request and an abort, so its buffer may have been filled
and what was open is closed; contents and cursor are untouched, and nothing was notified
(`Played.Failed`).

Main statement: every call of a controller is settled when it first addresses the target
(`FarCall.addressed`).  If nothing stands in its way then nothing ever does, and it ends well; if
something does, it fails with that, and leaves the contents, the cursor and every observer as they
were.
-/
import SerialEeprom.Proofs.Procedure
import SerialEeprom.Proofs.Transactions

namespace SerialEeprom

/-! ## 1. The line -/

/-- What decides whether a bus answers.  It is a part of the state of the bus, and the rest of it
plays no part. -/
structure Line where
  enabled : Option BusConfig
  failEnable : Bool
  fault : Option BusFault
  deriving DecidableEq, Repr

namespace Line

/-- What stands in the way of a transaction.  A bus that is down does not come to its fault, so it
is looked at first. -/
def obstacle (l : Line) : Option BusFault :=
  match l.enabled with
  | none => some .general
  | some _ => l.fault

/-- The line after a transaction was tried: a fault is spent.  On a bus that is down nothing was
tried. -/
def spent (l : Line) : Line :=
  match l.enabled with
  | none => l
  | some _ => { l with fault := none }

theorem spent_of_free {l : Line} (h : l.obstacle = none) : l.spent = l := by
  rcases l with ⟨_ | config, failEnable, fault⟩
  · rfl
  · obtain rfl : fault = none := h
    rfl

theorem spent_of_down {l : Line} (h : l.enabled = none) : l.spent = l := by
  simp only [spent, h]

theorem spent_of_up {l : Line} (h : l.enabled.isSome) : l.spent = { l with fault := none } := by
  obtain ⟨config, hconfig⟩ := Option.isSome_iff_exists.1 h
  simp only [spent, hconfig]

/-- Nothing else changes.  Whether the bus is up is not up to a transaction. -/
theorem spent_eq (l : Line) : l.spent = { l with fault := l.spent.fault } := by
  unfold spent
  split
  · rfl
  · rfl

theorem obstacle_eq_some_iff {l : Line} {fault : BusFault} :
    l.obstacle = some fault ↔
      (l.enabled = none ∧ fault = .general) ∨ (l.enabled.isSome ∧ l.fault = some fault) := by
  rcases l with ⟨_ | config, failEnable, pending⟩
  · simp [obstacle, eq_comm]
  · simp [obstacle]

end Line

namespace SimulatedBus

/-- The line of a bus.  The room, the offer and what comes in are left out. -/
def line (bus : SimulatedBus) : Line :=
  ⟨bus.enabled, bus.failEnable, bus.fault⟩

theorem ready_iff {bus : SimulatedBus} : bus.Ready ↔ bus.line.obstacle = none := by
  rcases bus with ⟨_ | config, failEnable, fault, incoming, capacity, offered⟩
  · constructor
    · rintro ⟨hup, -⟩; cases hup
    · intro h; cases h
  · exact ⟨fun h => h.no_fault, fun h => ⟨rfl, h⟩⟩

theorem takeReceived_line (bus : SimulatedBus) (buffer : List UInt8) :
    (Peripheral.takeReceived bus buffer).bus.line = bus.line := by
  simp only [Peripheral.takeReceived, takeReceived]
  split
  · rfl
  · rfl

end SimulatedBus

/-- **A device leaves the line as it is.**  What it asks of a bus concerns the room and the offered
bytes only. -/
theorem Device.handle_line (d : Device) (bus : SimulatedBus) (event : BusEvent) :
    (d.handle bus event).bus.line = bus.line := by
  cases event with
  | writeRequested =>
    simp only [handle, openWrite, Peripheral.prepareReceive, SimulatedBus.ifEnabled]
    by_cases hup : bus.enabled.isSome
    · rw [if_pos hup]
      rfl
    · rw [if_neg hup]
  | writeDone received =>
    by_cases hs : d.staged = some .receive
    · rw [handle, closeWrite_of_receive hs]
      exact bus.takeReceived_line d.scratch
    · rw [handle, closeWrite_of_stray hs]
  | readRequested =>
    simp only [handle, openRead, Peripheral.offer, SimulatedBus.ifEnabled]
    by_cases hup : bus.enabled.isSome
    · rw [if_pos hup]
      rfl
    · rw [if_neg hup]
  | readDone sent =>
    simp only [handle, closeRead]
    split
    · rfl
    · rfl
  | fault fault => rfl

/-! ## 2. With nothing in the way

Calls from inside may be made in all the gaps; they do not touch the line either. -/

namespace Procedure

variable {α γ : Type} {p : Procedure α}

/-- With nothing in the way it ends well, and leaves the line as it was.  So whatever comes after it
finds nothing in the way either. -/
def Smooth (p : Procedure α) : Prop :=
  ∀ (gaps : List (List OwnerCall)) (d : Device) (bus : SimulatedBus), bus.line.obstacle = none →
    (∃ x, (p.play gaps d bus).result = .ok x) ∧ (p.play gaps d bus).bus.line = bus.line

namespace Smooth

theorem pure (x : α) : (Pure.pure x : Procedure α).Smooth :=
  fun _ _ _ _ => ⟨⟨x, rfl⟩, rfl⟩

theorem bind {f : α → Procedure γ} (hp : p.Smooth) (hf : ∀ x, (f x).Smooth) :
    (p >>= f).Smooth := by
  intro gaps d bus hb
  obtain ⟨⟨x, hx⟩, hline⟩ := hp gaps d bus hb
  have hrest := hf x (gaps.drop (p.play gaps d bus).events.length) (p.play gaps d bus).device
    (p.play gaps d bus).bus (hline ▸ hb)
  rw [play_bind, Played.andThen_of_ok hx]
  exact ⟨hrest.1, hrest.2.trans hline⟩

theorem look {f : SimulatedBus → Procedure α} (hf : ∀ bus, (f bus).Smooth) :
    (Procedure.look f).Smooth :=
  fun gaps d bus hb => hf bus gaps d bus hb

theorem change {f : SimulatedBus → SimulatedBus} (hf : ∀ bus, (f bus).line = bus.line)
    (hp : p.Smooth) : (Procedure.change f p).Smooth := by
  intro gaps d bus hb
  obtain ⟨hresult, hline⟩ := hp gaps d (f bus) (hf bus ▸ hb)
  exact ⟨hresult, hline.trans (hf bus)⟩

theorem signal (event : BusEvent) : (Procedure.signal event).Smooth :=
  fun _ _ _ _ => ⟨⟨(), rfl⟩, Device.handle_line ..⟩

end Smooth

theorem address_of_free (request : BusEvent) (gaps : List (List OwnerCall)) (d : Device)
    {bus : SimulatedBus} (hb : bus.line.obstacle = none) :
    (address request).play gaps d bus = ⟨.ok (), d, bus, []⟩ := by
  obtain ⟨hup, hfault⟩ := SimulatedBus.ready_iff.2 hb
  have hup : ¬ bus.enabled.isNone := by
    rw [Option.isNone_iff_eq_none]
    exact Option.isSome_iff_ne_none.1 hup
  simp only [address, play, if_neg hup, hfault]

theorem Smooth.address (request : BusEvent) : (Procedure.address request).Smooth := by
  intro gaps d bus hb
  rw [address_of_free request gaps d hb]
  exact ⟨⟨(), rfl⟩, rfl⟩

/-! ## 3. With something in the way

Only the first transaction matters, so a procedure that goes on after it is addressed if it is. -/

end Procedure

/-- It failed with what was in the way, and nobody but the line and what is open can tell.  The
buffer is not mentioned: the request may have filled it anew. -/
structure Played.Failed {α : Type} (p : Played α) (d : Device) (bus : SimulatedBus)
    (fault : BusFault) : Prop where
  result_eq : p.result = .error (.peripheral fault)
  told_eq : p.told = []
  line_eq : p.bus.line = bus.line.spent
  store_eq : p.device.store = d.store
  cursor_eq : p.device.cursor = d.cursor
  /-- If the bus is up, whatever was open is closed. -/
  staged_eq : bus.enabled.isSome → p.device.staged = none
  /-- If it is not, the device notices nothing. -/
  device_eq : bus.enabled = none → p.device = d

namespace Procedure

variable {α γ : Type} {p : Procedure α}

/-- It ends well if nothing is in the way, and fails at its start if something is.  Failure is
stated without calls from inside, which may change the contents. -/
structure Addressed (p : Procedure α) : Prop where
  smooth : p.Smooth
  failed : ∀ (d : Device) (bus : SimulatedBus) (fault : BusFault),
    bus.line.obstacle = some fault → (p.play [] d bus).Failed d bus fault

namespace Addressed

/-- A request is a way to address the target, as it completes nothing.  With a fault pending it is
handled, and then the fault is. -/
theorem address (request : BusEvent)
    (hr : ∀ (d : Device) (bus : SimulatedBus), (d.handle bus request).toServed.Silent d) :
    (Procedure.address request).Addressed where
  smooth := .address request
  failed d bus fault h := by
    -- Whether the bus is up decides how a failure comes about, so the bus is taken apart.
    rcases bus with ⟨_ | config, failEnable, pending, incoming, capacity, offered⟩
    · obtain rfl : BusFault.general = fault := Option.some.inj h
      refine ⟨rfl, rfl, rfl, rfl, rfl, ?_, fun _ => rfl⟩
      intro hup
      cases hup
    · obtain rfl : pending = some fault := h
      let cleared : SimulatedBus := ⟨some config, failEnable, none, incoming, capacity, offered⟩
      obtain ⟨hstore, hcursor, hnotification⟩ := hr d cleared
      let requested := d.handle cleared request
      let aborted := requested.device.handle requested.bus (.fault fault)
      have hplay : (Procedure.address request).play [] d
            ⟨some config, failEnable, some fault, incoming, capacity, offered⟩
          = ((⟨.error (.peripheral fault), aborted.device, aborted.bus, []⟩ : Played Unit).after
              (.fault fault) aborted.toServed).after request requested.toServed := rfl
      have htold := congrArg Played.told hplay
      rw [Played.told_after, Played.told_after, hnotification] at htold
      rw [hplay] at htold ⊢
      refine ⟨rfl, htold, d.handle_line cleared request, hstore, hcursor, fun _ => rfl, ?_⟩
      intro hdown
      cases hdown

theorem bind {f : α → Procedure γ} (hp : p.Addressed) (hf : ∀ x, (f x).Smooth) :
    (p >>= f).Addressed where
  smooth := hp.smooth.bind hf
  failed d bus fault h := by
    have hfailed := hp.failed d bus fault h
    rw [play_bind, Played.andThen_of_error hfailed.result_eq]
    exact { hfailed with result_eq := rfl }

theorem change {f : SimulatedBus → SimulatedBus} (hf : ∀ bus, (f bus).line = bus.line)
    (hp : p.Addressed) : (Procedure.change f p).Addressed where
  smooth := .change hf hp.smooth
  failed d bus fault h := by
    have hfailed := hp.failed d (f bus) fault (hf bus ▸ h)
    have henabled : (f bus).enabled = bus.enabled := congrArg Line.enabled (hf bus)
    exact { hfailed with
      line_eq := hfailed.line_eq.trans (congrArg Line.spent (hf bus))
      staged_eq := henabled ▸ hfailed.staged_eq
      device_eq := henabled ▸ hfailed.device_eq }

/-- It fails exactly with what is in its way.  So the error is known beforehand. -/
theorem result_eq_error_iff (hp : p.Addressed) {d : Device} {bus : SimulatedBus}
    {e : EepromError} :
    (p.play [] d bus).result = .error e ↔
      ∃ fault, bus.line.obstacle = some fault ∧ e = .peripheral fault := by
  rcases hb : bus.line.obstacle with _ | fault
  · obtain ⟨⟨x, hx⟩, -⟩ := hp.smooth [] d bus hb
    rw [hx]
    constructor
    · intro h; cases h
    · rintro ⟨fault, h, -⟩; cases h
  · rw [(hp.failed d bus fault hb).result_eq]
    constructor
    · intro h
      exact ⟨fault, rfl, (Except.error.inj h).symm⟩
    · rintro ⟨fault', h, rfl⟩
      rw [Option.some.inj h]

/-- Where one of them ends well, so does any other.  They depend on the line alone. -/
theorem ends_well {q : Procedure γ} (hp : p.Addressed) (hq : q.Addressed) {d : Device}
    {bus : SimulatedBus} {x : α} (hx : (p.play [] d bus).result = .ok x) :
    ∃ y, (q.play [] d bus).result = .ok y := by
  rcases hy : (q.play [] d bus).result with e | y
  · have he : (p.play [] d bus).result = .error e :=
      hp.result_eq_error_iff.2 (hq.result_eq_error_iff.1 hy)
    rw [hx] at he
    cases he
  · exact ⟨y, rfl⟩

end Addressed

theorem send_addressed (bytes : List UInt8) : (send bytes).Addressed := by
  have haddress := Addressed.address .writeRequested fun d bus => d.openWrite_silent bus
  refine .change (fun _ => rfl) (haddress.bind ?_)
  refine fun _ => (Smooth.signal _).bind fun _ => .look fun bus => ?_
  dsimp only
  split
  · exact Smooth.bind (fun _ _ _ _ => ⟨⟨(), rfl⟩, rfl⟩) fun _ =>
      (Smooth.signal _).bind fun _ => .pure _
  · exact (Smooth.signal _).bind fun _ => .pure _

theorem receive_addressed (length : Nat) : (receive length).Addressed := by
  have haddress := Addressed.address .readRequested fun d bus => d.openRead_silent bus
  refine .change (fun _ => rfl) (haddress.bind ?_)
  refine fun _ => (Smooth.signal _).bind fun _ => .look fun bus => .change (fun _ => rfl) ?_
  exact (Smooth.signal _).bind fun _ => .pure _

theorem seek_addressed (target : UInt16) : (seek target).Addressed :=
  (send_addressed _).bind fun _ => .pure _

theorem read_addressed (target : UInt16) (length : Nat) : (read target length).Addressed :=
  (seek_addressed target).bind fun _ => (receive_addressed length).smooth

end Procedure

/-- **Every call of a controller is settled when it first addresses the target.**  One case for each
call, all put together from two transactions. -/
theorem FarCall.addressed (c : FarCall) : c.procedure.Addressed := by
  cases c with
  | send bytes => exact (Procedure.send_addressed bytes).bind fun _ => .pure _
  | receive length => exact (Procedure.receive_addressed length).bind fun _ => .pure _
  | seek address => exact (Procedure.seek_addressed address).bind fun _ => .pure _
  | write address bytes => exact (Procedure.send_addressed _).bind fun _ => .pure _
  | read address length => exact (Procedure.read_addressed address length).bind fun _ => .pure _

end SerialEeprom
