/-
# Transactions on the bus

What a device does with each event of its peripheral.

* The first two bytes of a write are the new address, big endian; any further bytes are stored
  from there on.
* A read gives the bytes from the cursor on.
* Both move the cursor behind the bytes they moved, and are then notified.

A transaction has two halves, the request and its completion, and the completion is served only
if the peripheral accepted a buffer at the request (`Device.staged`).  A completion that is not
served still ends whatever was open: the buffer is taken down before it is known whether it was the
right one.  What does not fit into the contents is cut off.  Nothing on the bus can make the device
fail: an event that cannot be served leaves a message in the log and is dropped.

How many bytes a completion moves is told more than once, by the event and by the peripheral when it
hands the bytes over, and neither needs to be right.  The device takes the smaller number, of a
write, and never more than it offered, of a read; so counts that are wrong can lose bytes, but
cannot make the device reach beyond its buffers.

The functions here are pure: they give the device as the event leaves it, the peripheral, the
access that was completed, and the messages (`Handled`).  Whether somebody observes the access is
for the target to know.
-/
import SerialEeprom.BigEndian
import SerialEeprom.Device

namespace SerialEeprom

/-- What an event leaves on the device's side: the device, the access it completed, and the
messages. -/
structure Served where
  device : Device
  notification : Option Notification
  log : List LogEntry

/-- What handling an event leaves, with the peripheral it came from. -/
structure Handled (β : Type) extends Served where
  bus : β

namespace Device

variable {β : Type} [Peripheral β]

/-! ## 1. Writing

The request makes room, the completion stores what came in. -/

/-- A controller wants to write: offer the whole scratch buffer.  A refusal leaves nothing staged,
so that the completion will not be served. -/
def openWrite (d : Device) (bus : β) : Handled β :=
  match Peripheral.prepareReceive bus d.scratch.length with
  | (.ok (), bus) =>
    ⟨⟨{ d with phase := .operation, staged := some .receive }, none, []⟩, bus⟩
  | (.error reason, bus) =>
    ⟨⟨{ d with phase := .operation, staged := none }, none, [.receiveRefused reason]⟩, bus⟩

/-- Store what a controller sent behind an address, as far as it fits.  Nothing behind an address
only moves the cursor, and is no access that anybody would be told of. -/
def storePayload (d : Device) (address : UInt16) (payload : List UInt8) : Served :=
  if payload = [] then ⟨{ d with cursor := address }, none, [.addressSet address]⟩
  else
    let (kept, store) := d.store.writeTruncated address payload
    let dropped : List LogEntry :=
      if kept < payload.length then [.bytesDropped (payload.length - kept)] else []
    ⟨{ d with store, cursor := address + kept.toUInt16 },
      some ⟨.write, address, kept.toUInt16⟩,
      .addressSet address :: dropped ++ [.written kept address]⟩

/-- Take the bytes of one write as they came in: an address, then what to store there.  An address
is two bytes, so fewer are ignored; and one beyond the end leaves the cursor where it was. -/
def acceptBytes (d : Device) (bytes : List UInt8) : Served :=
  match bytes with
  | high :: low :: payload =>
    let address := BigEndian.ofBytes high low
    if address < d.config.size then d.storePayload address payload
    else ⟨d, none, [.farAddress address d.config.size]⟩
  | short => ⟨d, none, [.shortWrite short.length]⟩

/-- A controller has written.  Of the bytes taken over, as many count as both the event and the
peripheral speak of. -/
def closeWrite (d : Device) (bus : β) (received : Nat) : Handled β :=
  if d.staged = some .receive then
    let taken := Peripheral.takeReceived bus d.scratch
    -- The rest of the buffer is left over from other transactions.
    let bytes := taken.buffer.take (min received taken.count)
    ⟨acceptBytes { d with staged := none, scratch := taken.buffer } bytes, taken.bus⟩
  else ⟨⟨{ d with staged := none }, none, [.strayWrite received]⟩, bus⟩

/-! ## 2. Reading

The bytes are taken from the contents at the request.  What is stored between then and the
completion does not change what the controller reads. -/

/-- A controller wants to read: offer the bytes from the cursor on, up to the end of the contents.
At the end, that is an offer of nothing. -/
def openRead (d : Device) (bus : β) : Handled β :=
  -- The bytes are copied, so that nothing written from inside can change them afterwards.
  let (count, scratch) := d.store.readTruncated d.cursor d.scratch
  match Peripheral.offer bus (scratch.take count) with
  | (.ok (), bus) =>
    ⟨⟨{ d with phase := .operation, scratch, staged := some (.transmit count) }, none, []⟩, bus⟩
  | (.error reason, bus) =>
    ⟨⟨{ d with phase := .operation, scratch, staged := none }, none, [.offerRefused reason]⟩, bus⟩

/-- A controller has read.  It cannot have read more than it was offered, so a greater count is cut
to that, with a warning. -/
def closeRead (d : Device) (bus : β) (sent : Nat) : Handled β :=
  match d.staged with
  | some (.transmit offered) =>
    let count := min sent offered
    let claim : List LogEntry := if offered < sent then [.overread sent offered] else []
    ⟨⟨{ d with phase := .idle, staged := none, cursor := d.cursor + count.toUInt16 },
      some ⟨.read, d.cursor, count.toUInt16⟩, claim ++ [.readDone count d.cursor]⟩, bus⟩
  | _ => ⟨⟨{ d with phase := .idle, staged := none }, none, [.strayRead sent]⟩, bus⟩

/-! ## 3. Any event -/

/-- Drop whatever is open.  The cursor stays, as after a completion that belongs to nothing. -/
def abort (d : Device) (bus : β) (fault : BusFault) : Handled β :=
  ⟨⟨{ d with phase := .idle, staged := none }, none, [.busFault fault]⟩, bus⟩

/-- Handle the next event of a peripheral.  Every event is handled in every state, so events may
come in any order. -/
def handle (d : Device) (bus : β) : BusEvent → Handled β
  | .writeRequested => d.openWrite bus
  | .writeDone received => d.closeWrite bus received
  | .readRequested => d.openRead bus
  | .readDone sent => d.closeRead bus sent
  | .fault fault => d.abort bus fault

end Device

end SerialEeprom
