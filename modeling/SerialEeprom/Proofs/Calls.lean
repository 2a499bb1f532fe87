/-
# What a peripheral is asked for

A peripheral need not remember what it was asked for.  A tapped one does: it answers as the
peripheral behind it does, and keeps a list of the calls (`Tapped`).  A device treats all
peripherals alike, so the calls that it makes to any of them are found by giving it the same one
with a tap, and nothing has to be asked of the peripheral itself.

A tap notes at most one call for an event and changes nothing else (`handle_tapped`).  So the calls
of an event are settled by the device alone (`calls_eq`): a request asks for what it needs, the end
of a write for the bytes that came in if room was made for them, and nothing else asks for anything.
A peripheral is never asked twice for one thing, nor for bytes that it was not told to make room
for.

What a request leaves is settled by the answer to its call (`toServed_openWrite`,
`toServed_openRead`).  Both kinds of request leave the same sort of thing, and differ in what is
staged and in the message of a refusal, so they are stated with one definition (`Device.opened`);
what holds of it holds of both.
-/
import SerialEeprom.Bus.Scripted
import SerialEeprom.Device.Transaction

namespace SerialEeprom

/-- A peripheral, and the calls made to it so far.  It stands for any peripheral, also for one that
does not keep a list itself. -/
structure Tapped (β : Type) where
  bus : β
  calls : List BusCall

variable {β : Type} [Peripheral β]

namespace Tapped

/-- Note a call beside what the peripheral answers to it.  The answer is passed on as it is. -/
def note (tap : Tapped β) (call : BusCall) (answer : Except String Unit × β) :
    Except String Unit × Tapped β :=
  (answer.1, ⟨answer.2, tap.calls ++ [call]⟩)

instance : Peripheral (Tapped β) where
  enable tap config := tap.note (.enable config) (Peripheral.enable tap.bus config)
  prepareReceive tap room :=
    tap.note (.prepareReceive room) (Peripheral.prepareReceive tap.bus room)
  takeReceived tap buffer :=
    let taken := Peripheral.takeReceived tap.bus buffer
    { taken with bus := ⟨taken.bus, tap.calls ++ [.takeReceived buffer.length]⟩ }
  offer tap bytes := tap.note (.offer bytes) (Peripheral.offer tap.bus bytes)
  length_takeReceived tap buffer := Peripheral.length_takeReceived tap.bus buffer

end Tapped

namespace Device

/-- What the device asks of a peripheral in handling an event.  The device is run on the same
peripheral with a tap, and the list of the tap is read. -/
def calls (d : Device) (bus : β) (event : BusEvent) : List BusCall :=
  (d.handle (⟨bus, []⟩ : Tapped β) event).bus.calls

/-- The calls of each event, whatever the peripheral.  They are read off the device: no answer of
the peripheral comes in. -/
def asked (d : Device) : BusEvent → List BusCall
  | .writeRequested => [.prepareReceive d.scratch.length]
  | .writeDone _ => if d.staged = some .receive then [.takeReceived d.scratch.length] else []
  | .readRequested => [.offer (d.store.slice d.cursor d.scratch.length)]
  | .readDone _ => []
  | .fault _ => []

/-- What is offered at a read request are the bytes from the cursor on.  They go through the buffer,
which does not change them. -/
theorem offered_eq (d : Device) :
    (d.store.readTruncated d.cursor d.scratch).2.take
        (d.store.readTruncated d.cursor d.scratch).1
      = d.store.slice d.cursor d.scratch.length :=
  take_overlay_zero (Store.count_readTruncated_le ..)

/-- What a request leaves once it was answered.  The phase changes either way; a buffer is staged if
it was accepted. -/
def opened (d : Device) (staged : Staged) (refused : String → LogEntry) :
    Except String Unit → Served
  | .ok () => ⟨{ d with phase := .operation, staged := some staged }, none, []⟩
  | .error reason => ⟨{ d with phase := .operation, staged := none }, none, [refused reason]⟩

theorem toServed_openWrite (d : Device) (bus : β) :
    (d.openWrite bus).toServed
      = d.opened .receive .receiveRefused (Peripheral.prepareReceive bus d.scratch.length).1 := by
  unfold openWrite
  rcases Peripheral.prepareReceive bus d.scratch.length with ⟨_ | _, _⟩
  · rfl
  · rfl

theorem toServed_openRead (d : Device) (bus : β) :
    let bytes := d.store.slice d.cursor d.scratch.length
    (d.openRead bus).toServed
      = ({ d with scratch := overlay d.scratch 0 bytes } : Device).opened
          (.transmit bytes.length) .offerRefused (Peripheral.offer bus bytes).1 := by
  intro bytes
  simp only [openRead, offered_eq]
  rcases Peripheral.offer bus (d.store.slice d.cursor d.scratch.length) with ⟨_ | _, _⟩
  · rfl
  · rfl

/-- **A tap notes the calls and changes nothing.**  Both halves are needed: what is noted is the
device's doing, what is left is the peripheral's. -/
theorem handle_tapped (d : Device) (bus : β) (noted : List BusCall) (event : BusEvent) :
    d.handle (⟨bus, noted⟩ : Tapped β) event
      = ⟨(d.handle bus event).toServed, ⟨(d.handle bus event).bus, noted ++ d.asked event⟩⟩ := by
  cases event with
  | writeRequested =>
    simp only [handle, openWrite, Peripheral.prepareReceive, Tapped.note]
    rcases Peripheral.prepareReceive bus d.scratch.length with ⟨_ | _, _⟩
    · rfl
    · rfl
  | writeDone received =>
    simp only [handle, closeWrite, asked]
    split
    · rfl
    · rw [List.append_nil]
  | readRequested =>
    simp only [handle, openRead, offered_eq, Peripheral.offer, Tapped.note]
    rcases Peripheral.offer bus (d.store.slice d.cursor d.scratch.length) with ⟨_ | _, _⟩
    · rfl
    · rfl
  | readDone sent =>
    simp only [handle, closeRead, asked, List.append_nil]
    split
    · rfl
    · rfl
  | fault fault =>
    simp only [handle, abort, asked, List.append_nil]

theorem calls_eq (d : Device) (bus : β) (event : BusEvent) : d.calls bus event = d.asked event := by
  rw [calls, handle_tapped]
  rfl

end Device

end SerialEeprom
