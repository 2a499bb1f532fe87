/-
# The bus

A peripheral reports what happens on the bus as events, and is asked for four things: to listen,
to make room for what a controller writes, to hand over what came in, and to take what a
controller may read.  `Peripheral` asks nothing of an implementation but that a buffer handed to
it keeps its length.  It may fail when it likes, it may report events in any order, and its counts
may be wrong: whatever is proved of a device for all peripherals is proved for a faulty one too.

Two peripherals are at hand.  The simulated one is part of the library (`SimulatedBus`): it has
the far side of the bus in the same place, so that a controller can put down the bytes it clocks in
and pick up those it was offered.  It can be told not to come up, and to abort the next
transaction.  The scripted one answers what it was told to answer; it has a module of its own,
since only statements about faulty peripherals need it.

A simulated bus is as simple as a bus can be, and still has a state of its own: the room made for
a write is spent when the bytes are handed over, and the bytes offered for a read stay until they
are replaced.  What a controller may rely on before it starts is therefore said about the bus and
not about the device.
-/
import SerialEeprom.Config
import SerialEeprom.Overlay

namespace SerialEeprom

open SerialEeprom.Text

/-! ## 1. What a target asks of a peripheral -/

/-- What the peripheral reports.  A transaction is a request and its completion, each with an event
of its own. -/
inductive BusEvent where
  /-- A controller wants to write; room for the bytes is needed. -/
  | writeRequested
  /-- A controller has written, as the peripheral says, `received` bytes. -/
  | writeDone (received : Nat)
  /-- A controller wants to read; the bytes are needed. -/
  | readRequested
  /-- A controller has read, as the peripheral says, `sent` bytes. -/
  | readDone (sent : Nat)
  /-- The transaction was aborted. -/
  | fault (fault : BusFault)
  deriving DecidableEq, Repr

/-- What is left when received bytes were put into a buffer: the number of them, as the
peripheral says, the buffer, and the peripheral. -/
structure Taken (β : Type) where
  count : Nat
  buffer : List UInt8
  bus : β

/-- What drives the target's end of the bus.  Each request leaves the peripheral in a new state, be
it refused or not, and a refusal has a reason that is logged. -/
class Peripheral (β : Type) where
  /-- Listen on the bus. -/
  enable : β → BusConfig → Except String Unit × β
  /-- Make room for so many bytes with the next write. -/
  prepareReceive : β → Nat → Except String Unit × β
  /-- Put the bytes that came in with the last write into a buffer, from its start on. -/
  takeReceived : β → List UInt8 → Taken β
  /-- Offer these bytes for the next read. -/
  offer : β → List UInt8 → Except String Unit × β
  /-- A buffer is filled in place. -/
  length_takeReceived : ∀ bus buffer, (takeReceived bus buffer).buffer.length = buffer.length

/-! ## 2. A simulated bus -/

/-- The state of a simulated bus.  The last three fields are what target and controller leave there
for each other. -/
structure SimulatedBus where
  /-- The settings it listens with, once it is up. -/
  enabled : Option BusConfig := none
  /-- It does not come up. -/
  failEnable : Bool := false
  /-- The fault that will abort the next transaction. -/
  fault : Option BusFault := none
  /-- What a controller clocks in with the next write. -/
  incoming : List UInt8 := []
  /-- The room the target made for the open write. -/
  capacity : Option Nat := none
  /-- What the target offered for the open read. -/
  offered : List UInt8 := []
  deriving DecidableEq, Repr

namespace SimulatedBus

/-- Come up, on a seven-bit address.  A bus that was told not to come up does not look at the
address. -/
def enable (bus : SimulatedBus) (config : BusConfig) : Except String Unit × SimulatedBus :=
  if bus.failEnable then (.error "peripheral initialization failed", bus)
  else if 0x7f < config.address then
    (.error ("invalid bus address 0x" ++ Hex.text 2 config.address.toNat), bus)
  else (.ok (), { bus with enabled := some config })

/-- What a bus that is not up answers.  Nothing is changed by what it was asked for. -/
def ifEnabled (bus ready : SimulatedBus) : Except String Unit × SimulatedBus :=
  if bus.enabled.isSome then (.ok (), ready) else (.error "peripheral not enabled", bus)

/-- Hand over what a controller clocked in, once for each time room was made. -/
def takeReceived (bus : SimulatedBus) (buffer : List UInt8) : Taken SimulatedBus :=
  match bus.capacity with
  | none => ⟨0, buffer, bus⟩
  | some capacity =>
    let bytes := bus.incoming.take capacity
    ⟨min bytes.length buffer.length, overlay buffer 0 bytes, { bus with capacity := none }⟩

instance : Peripheral SimulatedBus where
  enable := enable
  prepareReceive bus room := bus.ifEnabled { bus with capacity := some room }
  takeReceived := takeReceived
  offer bus bytes := bus.ifEnabled { bus with offered := bytes }
  length_takeReceived bus buffer := by
    unfold takeReceived
    split <;> simp

end SimulatedBus

end SerialEeprom
