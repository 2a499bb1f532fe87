/-
# Targets and observers

A target is a device together with the observer that is told of each completed access.  The
observer is told when the access is over: it sees the device as it is then, may read it, and
decides who observes the next access, itself, another or nobody.  It cannot change the device.

That is all that is asked of an observer (`Observer`).  It is a function of what it is told, with no
state beside what it is, so an observer that counts is one that hands over to another each time.  It
may hand out messages and reports of its own, which come behind those of the access; it cannot fail,
and the device goes on as if nobody had been told.  So the device does the same whoever observes it.

A link is a target and the peripheral it answers through (`Link`).  It has an action for each thing
that can happen to the pair: a call from inside, which leaves the peripheral alone, a change of the
peripheral, which leaves the target alone, and an event, which goes through the device first and to
the observer last (`Link.handle`).
-/
import SerialEeprom.Device.Transaction

namespace SerialEeprom

/-- What an observer does when it is told of an access: what it hands out, and who observes the
next one. -/
structure Reaction (η ω : Type) where
  trace : List (Emission ω)
  next : Option η

/-- Those who can be told of accesses.  What they do may depend on the device, but not change it.  A
reaction is a value and not an action on the device, so the type sees to that. -/
class Observer (η : Type) (ω : outParam Type) where
  react : η → Device → Notification → Reaction η ω

/-- A device and its observer.  There is one observer at a time, or none. -/
structure Target (η : Type) where
  device : Device
  observer : Option η

namespace Target

variable {η ω ε : Type} [Observer η ω]

/-- Tell the observer, if there is one, of a completed access.  It is put in its place again only if
it asks for that. -/
def notify (n : Notification) : Action (Target η) ω ε Unit := fun t =>
  match t.observer with
  | none => ⟨.ok (), t, []⟩
  | some observer =>
    let reaction := Observer.react observer t.device n
    ⟨.ok (), { t with observer := reaction.next }, reaction.trace⟩

end Target

/-- A target on one bus. -/
structure Link (η β : Type) where
  target : Target η
  bus : β

namespace Link

variable {η ω ε β α : Type}

/-- An action on the device of a link.  Neither the peripheral nor the observer is told of it. -/
def onDevice (a : Action Device ω ε α) : Action (Link η β) ω ε α :=
  Action.zoom (fun l => l.target.device)
    (fun device l => { l with target := { l.target with device } }) a

/-- Change the peripheral of a link. -/
def modifyBus (f : β → β) : Action (Link η β) ω ε Unit :=
  Action.modify fun l => { l with bus := f l.bus }

variable [Peripheral β]

/-- Bring up the peripheral of a link. -/
def attach : Action (Link η β) ω EepromError Unit := fun l =>
  Action.zoom (fun l : Link η β => l.bus) (fun bus l => { l with bus }) l.target.device.attach l

/-- Let the device handle an event of the peripheral, then tell the observer if an access is
complete. -/
def handle [Observer η ω] (event : BusEvent) : Action (Link η β) ω ε Unit := fun l =>
  let handled := l.target.device.handle l.bus event
  let target := { l.target with device := handled.device }
  let log : List (Emission ω) := handled.log.map .log
  match handled.notification with
  | none => ⟨.ok (), ⟨target, handled.bus⟩, log⟩
  | some n =>
    let told := (Target.notify n : Action (Target η) ω ε Unit) target
    ⟨told.result, ⟨told.state, handled.bus⟩, log ++ told.trace⟩

end Link

end SerialEeprom
