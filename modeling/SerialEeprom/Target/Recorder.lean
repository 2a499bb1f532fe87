/-
# Recorders

Observers that report every access they are told of, under a tag.  Some do one thing more: they
read the access back from the device, or step down after the first one, or hand over to a plain
recorder whose tag has a prime.

Between them they use all that an observer is free to do.  A probing recorder looks at the device at
the moment it is told, by a strict access, so it sees what was stored, the cursor behind it, and a
refusal where the access ends with the last byte.  The others use the right to say who comes next.
In a list of reports it shows who was told, since the tag goes with the report.
-/
import SerialEeprom.Target

namespace SerialEeprom

/-- What a recorder does beside recording. -/
inductive Recorder.Habit where
  | plain
  /-- Read the bytes of the access, and the cursor, from the device. -/
  | probing
  /-- Observe one access only. -/
  | once
  /-- Observe one access, then let a plain recorder go on. -/
  | swapping
  deriving DecidableEq, Repr

/-- An observer that reports what it is told. -/
structure Recorder where
  tag : String
  habit : Recorder.Habit
  deriving DecidableEq, Repr

/-- What reading the device from inside an observer gave.  The reading may be refused, as any strict
access may. -/
structure Probe where
  bytes : Except OutOfBounds (List UInt8)
  cursor : UInt16

/-- One report of a recorder. -/
structure Record where
  tag : String
  notification : Notification
  probe : Option Probe

namespace Recorder

/-- Report an access.  The tag is that of the recorder who was told, also when it hands over. -/
def react (r : Recorder) (d : Device) (n : Notification) : Reaction Recorder Record :=
  match r.habit with
  | .plain => ⟨[.report ⟨r.tag, n, none⟩], some r⟩
  | .once => ⟨[.report ⟨r.tag, n, none⟩], none⟩
  | .swapping => ⟨[.report ⟨r.tag, n, none⟩], some ⟨r.tag ++ "'", .plain⟩⟩
  | .probing =>
    let bytes := d.store.read n.address n.length
    ⟨(Store.accessLog bytes).map .log ++ [.report ⟨r.tag, n, some ⟨bytes, d.cursor⟩⟩], some r⟩

instance : Observer Recorder Record where
  react := react

end Recorder

end SerialEeprom
