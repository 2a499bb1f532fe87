/-
# A scripted peripheral

A peripheral whose answers are fixed beforehand and which keeps a list of the calls made to it.
It can refuse any request, and can claim to have handed over any number of bytes, be it more than
the buffer has room for.

A real peripheral does none of that, most of the time.  The scripted one shows that nothing is
assumed of it that it need not do: the witnesses of statements over all peripherals are run on this
one, with claims that are wrong and requests that are refused.  It keeps the one promise that a
`Peripheral` makes, that a buffer keeps its length, since it lays its bytes over the buffer.

The list of calls shows what a device asked for, and when.  It has the arguments of each call, so
that an offer of wrong bytes shows as well as one at the wrong time.
-/
import SerialEeprom.Bus
import SerialEeprom.Overlay

namespace SerialEeprom

/-- One call on a peripheral. -/
inductive BusCall where
  | enable (config : BusConfig)
  | prepareReceive (room : Nat)
  /-- With the length of the buffer to fill. -/
  | takeReceived (length : Nat)
  | offer (bytes : List UInt8)
  deriving DecidableEq, Repr

/-- The answers of a scripted peripheral, and the calls so far.  The answers stay the same from call
to call. -/
structure ScriptedBus where
  failEnable : Bool := false
  failReceive : Bool := false
  failOffer : Bool := false
  /-- The bytes it hands over, each time anew. -/
  incoming : List UInt8 := []
  /-- The number of bytes it says it handed over, if not the true one. -/
  claim : Option Nat := none
  calls : List BusCall := []
  deriving DecidableEq, Repr

namespace ScriptedBus

/-- Note a call, and answer it with a failure or not.  A call that fails is noted like any other. -/
def answer (bus : ScriptedBus) (call : BusCall) (failing : Bool) (reason : String) :
    Except String Unit × ScriptedBus :=
  (if failing then .error reason else .ok (), { bus with calls := bus.calls ++ [call] })

instance : Peripheral ScriptedBus where
  enable bus config := bus.answer (.enable config) bus.failEnable "scripted enable failure"
  prepareReceive bus room := bus.answer (.prepareReceive room) bus.failReceive "no receive buffer"
  takeReceived bus buffer :=
    let copied := min bus.incoming.length buffer.length
    ⟨bus.claim.getD copied, overlay buffer 0 bus.incoming,
      { bus with calls := bus.calls ++ [.takeReceived buffer.length] }⟩
  offer bus bytes := bus.answer (.offer bytes) bus.failOffer "no transmit buffer"
  length_takeReceived _ _ := length_overlay ..

end ScriptedBus

end SerialEeprom
