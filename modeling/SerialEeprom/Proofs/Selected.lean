/-
# The pins that a peripheral selects

A set-up names its two lines by port and number, and is refused if they are the same pair of bytes.
The peripheral is told one flat number for each line, and pairs of bytes are many more than pins:
any number from thirty-two on runs over into the next port.  So what is compared is not what is
told, and a set-up may be accepted whose lines are one pin, or no pin at all.

The pin that a peripheral selects is `Pin.place`.  Two pairs are told apart exactly if their places
are different (`select_eq_iff`), and the place of a pin that exists is the pair itself
(`Exists.place_eq`).  Among pins that exist, then, the comparison of pairs is the right one, and
those are the only pins that a text can be written as (`Pin.Written.exists`) or that a command line
can give (`exists_of_config`).

The statement is about what is told and not about what is computed: a peripheral is asked once when
a device is brought up, with the numbers in hand (`bringUpCalls_eq`), and what it is asked is the
same in every state of the device, since a device never changes its set-up.

The two conditions for lines to be usable are put together in `BusConfig.OnTwoPins`: different
numbers, both of a pin on the board.  It is a condition on what is told, without the pairs.

Main statement: what a peripheral is told of the lines of any device, when they are two pins that
exist, and that they are if the set-up was made of such pins (`lines_told`).
-/
import SerialEeprom.Proofs.Arguments
import SerialEeprom.Proofs.Calls
import SerialEeprom.Proofs.Sessions

namespace SerialEeprom

/-! ## 1. One number for a pin

Division with remainder, with names for its parts. -/

namespace Pin

variable {p q : Pin}

/-- There is such a pin on the board.  Both parts are bytes, and could be greater. -/
def Exists (p : Pin) : Prop :=
  p.port.toNat < portCount ∧ p.number.toNat < pinsPerPort

instance (p : Pin) : Decidable p.Exists :=
  inferInstanceAs (Decidable (_ ∧ _))

/-- The port and the number within it that a peripheral selects for a pin.  Numbers from thirty-two
on run over into the next port. -/
def place (p : Pin) : Nat × Nat :=
  (p.port.toNat + p.number.toNat / pinsPerPort, p.number.toNat % pinsPerPort)

/-- A pin that exists is the one that is selected.  Its number is less than a port has, so nothing
is carried over to the next port. -/
theorem Exists.place_eq (h : p.Exists) : p.place = (p.port.toNat, p.number.toNat) := by
  rw [place, Nat.div_eq_of_lt h.2, Nat.mod_eq_of_lt h.2, Nat.add_zero]

theorem toNat_select_eq_place (p : Pin) :
    p.select.toNat = p.place.1 * pinsPerPort + p.place.2 := by
  have hsplit := Nat.div_add_mod p.number.toNat pinsPerPort
  simp only [place, toNat_select, pinsPerPort] at hsplit ⊢
  omega

theorem place_lt (p : Pin) : p.place.2 < pinsPerPort :=
  Nat.mod_lt _ (by decide)

/-- **Two pins are told apart exactly if their places are different.**  A flat number and a place
determine each other. -/
theorem select_eq_iff : p.select = q.select ↔ p.place = q.place := by
  rw [← UInt32.toNat_inj, toNat_select_eq_place, toNat_select_eq_place, Prod.ext_iff]
  have hp := place_lt p
  have hq := place_lt q
  simp only [pinsPerPort] at hp hq ⊢
  omega

theorem select_lt_iff : p.select.toNat < portCount * pinsPerPort ↔ p.place.1 < portCount := by
  rw [toNat_select_eq_place]
  have hp := place_lt p
  simp only [portCount, pinsPerPort] at hp ⊢
  omega

/-- Among pins that exist, each has a place of its own.  With parts that are too great, two pins can
share one. -/
theorem Exists.place_inj (hp : p.Exists) (hq : q.Exists) : p.place = q.place ↔ p = q := by
  rw [hp.place_eq, hq.place_eq, Prod.mk.injEq, UInt8.toNat_inj, UInt8.toNat_inj, Pin.mk.injEq]

/-- Only pins that exist are written.  The bounds on the two numerals are those of the board. -/
theorem Written.exists {source : String} (h : Written source p) : p.Exists := by
  obtain ⟨body, -, -, -, port, number, -, -, hport, -, hnumber⟩ := h
  exact ⟨hport, hnumber⟩

end Pin

/-! ## 2. What a set-up tells

First of any set-up, then of one that came from a command line. -/

/-- The two lines are different pins, both of a port that exists.  This is said of the numbers that
are told. -/
def BusConfig.OnTwoPins (told : BusConfig) : Prop :=
  told.sda ≠ told.scl ∧ told.sda.toNat < Pin.portCount * Pin.pinsPerPort ∧
    told.scl.toNat < Pin.portCount * Pin.pinsPerPort

instance (told : BusConfig) : Decidable told.OnTwoPins :=
  inferInstanceAs (Decidable (_ ∧ _))

variable {config : DeviceConfig}

theorem DeviceConfig.bus_onTwoPins_iff :
    config.bus.OnTwoPins ↔
      config.sda.place ≠ config.scl.place ∧ config.sda.place.1 < Pin.portCount ∧
        config.scl.place.1 < Pin.portCount := by
  unfold BusConfig.OnTwoPins bus
  rw [Ne, Pin.select_eq_iff, Pin.select_lt_iff, Pin.select_lt_iff]

/-- **The comparison of pairs is enough for pins that exist.**  Their places are the pairs
themselves. -/
theorem DeviceConfig.bus_onTwoPins (hv : config.validate = .ok ()) (hsda : config.sda.Exists)
    (hscl : config.scl.Exists) : config.bus.OnTwoPins := by
  have hne : config.sda ≠ config.scl := (validate_eq_ok_iff.1 hv).2.2
  refine bus_onTwoPins_iff.2 ⟨?_, ?_, ?_⟩
  · rwa [Ne, hsda.place_inj hscl]
  · rw [hsda.place_eq]
    exact hsda.1
  · rw [hscl.place_eq]
    exact hscl.1

namespace Command

/-- The pin of an option exists, if its standard one does.  What is given was read, and only pins
that exist are. -/
theorem exists_of_gives {given : Option String} {standard p : Pin} (hstandard : standard.Exists)
    (h : Gives given standard Pin.Written p) : p.Exists := by
  rcases given with _ | source
  · obtain rfl := h
    exact hstandard
  · exact Pin.Written.exists h

/-- The lines of any set-up that a command line describes are pins that exist.  Each was written or
is a standard one, and both of these exist. -/
theorem DeviceOptions.exists_of_config {o : DeviceOptions} (h : o.config = .ok config) :
    config.sda.Exists ∧ config.scl.Exists := by
  have hgiven := config_eq_ok_iff.1 h
  exact ⟨exists_of_gives (by decide) hgiven.sda, exists_of_gives (by decide) hgiven.scl⟩

/-- **The command line cannot make a device whose lines are not two pins.**  Set-ups made otherwise
can be wrong in this way; none that was read is. -/
theorem DeviceOptions.onTwoPins_of_config {o : DeviceOptions} (h : o.config = .ok config)
    (hv : config.validate = .ok ()) : config.bus.OnTwoPins :=
  DeviceConfig.bus_onTwoPins hv (exists_of_config h).1 (exists_of_config h).2

end Command

/-! ## 3. What a peripheral is told -/

variable {β : Type} [Peripheral β] {d : Device}

namespace Device

/-- What the device asks of a peripheral when it is brought up.  It is found with a tap, as for
events. -/
def bringUpCalls (d : Device) (bus : β) : List BusCall :=
  ((d.attach : Action (Tapped β) Empty EepromError Unit).run ⟨bus, []⟩).state.calls

theorem bringUpCalls_eq (d : Device) (bus : β) : d.bringUpCalls bus = [.enable d.config.bus] := by
  simp only [bringUpCalls, Action.run, attach, Peripheral.enable, Tapped.note]
  rcases Peripheral.enable bus d.config.bus with ⟨_ | _, _⟩
  · rfl
  · rfl

end Device

/-- **What a peripheral is told of the two lines.**  They are different pins of existing ports
exactly if their places are so, and always if the set-up names pins that exist. -/
theorem lines_told (h : Reachable config d) (bus : β) :
    ∃ told : BusConfig, d.bringUpCalls bus = [.enable told] ∧
      told.sda.toNat = config.sda.place.1 * 32 + config.sda.place.2 ∧
      told.scl.toNat = config.scl.place.1 * 32 + config.scl.place.2 ∧
      (told.OnTwoPins ↔ config.sda.place ≠ config.scl.place ∧ config.sda.place.1 < 2 ∧
        config.scl.place.1 < 2) ∧
      (config.sda.Exists → config.scl.Exists → told.OnTwoPins) := by
  refine ⟨config.bus, ?_, ?_, ?_, ?_, ?_⟩
  · rw [Device.bringUpCalls_eq, h.sound.config_eq]
  · exact Pin.toNat_select_eq_place config.sda
  · exact Pin.toNat_select_eq_place config.scl
  · exact DeviceConfig.bus_onTwoPins_iff
  · exact DeviceConfig.bus_onTwoPins (Command.validate_of_reachable h)

/-- Two pins with the same number, on the two ports. -/
theorem lines_told_across_ports :
    ∃ told : BusConfig, (Device.fresh { sda := ⟨0, 5⟩, scl := ⟨1, 5⟩ }).bringUpCalls
        ({} : ScriptedBus) = [.enable told] ∧ told.OnTwoPins := by
  have h : Reachable { sda := ⟨0, 5⟩, scl := ⟨1, 5⟩ }
      (Device.fresh { sda := ⟨0, 5⟩, scl := ⟨1, 5⟩ }) :=
    Reachable.of_moves (by decide) []
  obtain ⟨told, hcalls, -, -, -, hpins⟩ := lines_told h ({} : ScriptedBus)
  exact ⟨told, hcalls, hpins (by decide) (by decide)⟩

/-- Pin 32 of port 0 is taken for pin 0 of port 1, so that both lines are told as pin 32; and
pin 200 of port 7 is told as it comes. -/
theorem lines_told_as_one :
    (∃ d : Device, Reachable { sda := ⟨0, 32⟩, scl := ⟨1, 0⟩ } d ∧
        d.bringUpCalls ({} : ScriptedBus) = [.enable ⟨0x50, 32, 32⟩]) ∧
      (∃ d : Device, Reachable { sda := ⟨7, 200⟩ } d ∧
        d.bringUpCalls ({} : ScriptedBus) = [.enable ⟨0x50, 424, 27⟩]) ∧
      ¬ BusConfig.OnTwoPins ⟨0x50, 32, 32⟩ ∧ ¬ BusConfig.OnTwoPins ⟨0x50, 424, 27⟩ := by
  refine ⟨⟨Device.fresh _, Reachable.of_moves (by decide) [], ?_⟩,
    ⟨Device.fresh _, Reachable.of_moves (by decide) [], ?_⟩, by decide, by decide⟩
  · exact Device.bringUpCalls_eq ..
  · exact Device.bringUpCalls_eq ..

end SerialEeprom
