/-
# The controller

The other end of a simulated bus: what an EEPROM driver there does to reach the target.  A
transaction is a request and its completion, with the bytes clocked in or out between the two.  An
access at an address is made of these: a write carries its address in front, and a read is a write
of the address alone, followed by a transaction that reads.

A transaction fails in two ways only.  If the bus is not up, nobody answers and nothing happens.
If a fault is pending, the target sees the request and then the fault, and the fault is spent, so
that the next transaction goes through.  There is no failure in the middle: once a target is
addressed, bytes that find no room are counted and lost (`Controller.accepted`), and a read gives as
many bytes as were offered.

A controller sees nothing of the target but what the bus shows.  It does not know the size, is not
told of an address that was ignored, and cannot tell a short read at the end of the contents from
one that was cut for another reason.  What it can rely on all the same is the subject of the modules
on transactions, on addressed accesses and on access in pieces.

The two directions start with an empty bus: leftovers of an earlier transaction, bytes or room, are
put away before the target is addressed.
-/
import SerialEeprom.Target

namespace SerialEeprom

namespace Controller

variable {η ω : Type} [Observer η ω]

/-- What a controller does: actions on a target behind a simulated bus.  A transaction has only
errors of the peripheral. -/
abbrev Call (η ω α : Type) := Action (Link η SimulatedBus) ω EepromError α

/-- Note an event in the log and pass it to the target. -/
def signal (event : BusEvent) : Call η ω Unit := do
  Action.log (.busEvent event)
  Link.handle event

/-- Address the target with a request, and fail if it cannot be served.  A request that goes through
is left for the caller to signal. -/
def address (request : BusEvent) : Call η ω Unit := do
  let link ← Action.get
  if link.bus.enabled.isNone then Action.fail (.peripheral .general)
  else
    match link.bus.fault with
    | none => pure ()
    | some fault => do
      -- The fault is spent first, so that it is gone however the target answers.
      Link.modifyBus fun bus => { bus with fault := none }
      signal request
      signal (.fault fault)
      Action.fail (.peripheral fault)

/-! ## 1. Transactions -/

/-- How many of `length` bytes find room.  Where the target made none, all of them are refused. -/
def accepted (bus : SimulatedBus) (length : Nat) : Nat :=
  match bus.capacity with
  | none => 0
  | some capacity => min capacity length

/-- One write transaction; gives the number of bytes the target accepted.  Bytes without room are
refused one by one on the wire, and one message counts them. -/
def send (bytes : List UInt8) : Call η ω Nat := do
  Link.modifyBus fun bus => { bus with incoming := bytes, capacity := none }
  address .writeRequested
  signal .writeRequested
  let link ← Action.get
  let count := accepted link.bus bytes.length
  if count < bytes.length then Action.log (.refusedBytes (bytes.length - count))
  signal (.writeDone count)
  pure count

/-- One read transaction of up to `length` bytes; the target may offer fewer.  The completion
reports as many as were taken, so the cursor goes no further. -/
def receive (length : Nat) : Call η ω (List UInt8) := do
  Link.modifyBus fun bus => { bus with offered := [] }
  address .readRequested
  signal .readRequested
  let link ← Action.get
  let bytes := link.bus.offered.take length
  Link.modifyBus fun bus => { bus with offered := [] }
  signal (.readDone bytes.length)
  pure bytes

/-! ## 2. Access at an address -/

/-- Move the cursor of the target, with a write that is an address and nothing else.  How many of
the two bytes were accepted is not looked at. -/
def seek (target : UInt16) : Call η ω Unit := do
  let _ ← send (BigEndian.toBytes target)

/-- Write bytes at an address.  Address and bytes are clocked in together, so no other transaction
comes between the two. -/
def write (target : UInt16) (bytes : List UInt8) : Call η ω Unit := do
  let _ ← send (BigEndian.toBytes target ++ bytes)

/-- Read bytes at an address, in two transactions.  Nothing keeps the two together on the bus. -/
def read (target : UInt16) (length : Nat) : Call η ω (List UInt8) := do
  seek target
  receive length

end Controller

end SerialEeprom
