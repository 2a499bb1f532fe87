/-
# Devices as they are described

A device is described by texts, each of which may be missing.  Four readers turn them into a set-up,
which is then checked, and an image is laid over the contents of the device that is made of it.
Here is what the texts describe, said without any reader (`DeviceOptions.Describes`), and what a
device is that was just opened (`Device.HoldsImage`).

Without a reader means by the written forms: a number is written in the positional system, and a pin
as a letter or none with two numerals behind it (`Pin.Written`).  A text that is missing stands for
the standard value (`DeviceOptions.StandFor`).  What is added here are the conditions for a set-up
to work, which are those of the set-up as a whole: a size of at least one, an address up to 127, and
two pins that are not the same.

The two range checks for an address, one of eight bits when it is read and one of seven in the
set-up, are one: an address is accepted exactly up to 127.  That the two lines are told apart on the
board needs more than the check that their pairs of port and number are different; it follows
because only pins that exist can be read.  What a peripheral is told of a line is the number of its
pin, counted from the first pin of the first port (`BusConfig.Selects`), and for pins that exist two
such numbers are different and below sixty-four (`BusConfig.OnTwoPins`).

Nothing else can happen on the way.  A device that is opened has been told nothing and has told
nobody, and every part of it is as it was made but for the contents (`Device.holdsImage_iff`).

Main statement: a device is opened exactly if the texts describe a set-up, and it is then the
device of that set-up with the image in it (`opens_as_described`).
-/
import SerialEeprom.Proofs.Selected

namespace SerialEeprom

/-! ## 1. The contents

An image that is too long is cut at the end of the device, one that is too short is followed by
zeros. -/

/-- An image laid over zeros: as much of it as fits, and zeros behind it.  There are no zeros if it
fills the contents. -/
theorem overlay_zeros (size : Nat) (image : List UInt8) :
    overlay (List.replicate size 0) 0 image
      = image.take size ++ List.replicate (size - image.length) 0 := by
  have hrest : size - min size image.length = size - image.length := by omega
  simp [overlay, List.drop_replicate, hrest]

/-- The device is as it was made, but holds the image as far as it fits.  Of the set-up nothing is
said but its size. -/
structure Device.HoldsImage (d : Device) (image : List UInt8) : Prop where
  snapshot_eq : d.snapshot = image.take d.config.size.toNat
    ++ List.replicate (d.config.size.toNat - image.length) 0
  size_eq : d.store.size = d.config.size
  cursor_eq : d.cursor = 0
  phase_eq : d.phase = .idle
  staged_eq : d.staged = none
  scratch_eq : d.scratch = List.replicate d.config.size.toNat 0

/-- A new device with an image in it.  The cursor stays at the start, as the image is put in from
inside. -/
def Device.imaged (config : DeviceConfig) (image : List UInt8) : Device :=
  { fresh config with store := ((fresh config).store.writeTruncated 0 image).2 }

/-- Nothing else of a device is left open.  So to hold an image is to be one device, given the
set-up. -/
theorem Device.holdsImage_iff {d : Device} {image : List UInt8} :
    d.HoldsImage image ↔ d = imaged d.config image := by
  have hcells : ((fresh d.config).store.writeTruncated 0 image).2.cells
      = image.take d.config.size.toNat
        ++ List.replicate (d.config.size.toNat - image.length) 0 :=
    overlay_zeros d.config.size.toNat image
  constructor
  · rcases d with ⟨config, ⟨size, cells⟩, cursor, phase, staged, scratch⟩
    rintro ⟨hsnapshot, hsize, hcursor, hphase, hstaged, hscratch⟩
    simp only [snapshot] at *
    subst hsize hcursor hphase hstaged hscratch
    rw [hsnapshot, ← hcells]
    rfl
  · intro h
    rw [h]
    exact ⟨hcells, rfl, rfl, rfl, rfl, rfl⟩

/-- Loading an image gives nothing but messages on the way.  Whether there is a warning among them
depends on its length. -/
theorem Device.run_load {ω : Type} (address : UInt16) (image : List UInt8) (d : Device) :
    ∃ (kept : Nat) (entries : List LogEntry),
      (Device.load address image : Action Device ω EepromError Nat).run d
        = ⟨.ok kept, { d with store := (d.store.writeTruncated address image).2 },
          entries.map .log⟩ := by
  let kept := (d.store.writeTruncated address image).1
  by_cases h : kept < image.length
  · refine ⟨kept, [.imageTruncated image.length kept address, .loaded kept address], ?_⟩
    simp [Action.run, load, kept, if_pos h]
  · refine ⟨kept, [.loaded kept address], ?_⟩
    simp [Action.run, load, kept, if_neg h]

/-! ## 2. The lines -/

/-- What a peripheral is told is of this set-up: its address, and of each line the number of its
pin, counted from the first pin of the first port. -/
structure BusConfig.Selects (told : BusConfig) (config : DeviceConfig) : Prop where
  address_eq : told.address = config.address
  sda_eq : told.sda.toNat = 32 * config.sda.port.toNat + config.sda.number.toNat
  scl_eq : told.scl.toNat = 32 * config.scl.port.toNat + config.scl.number.toNat

theorem DeviceConfig.bus_selects (config : DeviceConfig) : config.bus.Selects config where
  address_eq := rfl
  sda_eq := (Pin.toNat_select config.sda).trans (by rw [Nat.mul_comm])
  scl_eq := (Pin.toNat_select config.scl).trans (by rw [Nat.mul_comm])

namespace Command

/-! ## 3. The description -/

namespace DeviceOptions

variable {o : DeviceOptions} {config : DeviceConfig}

/-- The options describe this set-up, and it can work: there are contents, the address is one of
seven bits, and the lines are on two pins. -/
structure Describes (o : DeviceOptions) (config : DeviceConfig) : Prop extends
    o.StandFor config where
  size_pos : 0 < config.size.toNat
  address_le : config.address.toNat ≤ 127
  sda_ne_scl : config.sda ≠ config.scl

theorem describes_iff :
    o.Describes config ↔ o.config = .ok config ∧ config.validate = .ok () := by
  have hseven : config.address ≤ 0x7f ↔ config.address.toNat ≤ 127 := UInt8.le_iff_toNat_le
  have hpos : config.size ≠ 0 ↔ 0 < config.size.toNat := by
    rw [Nat.pos_iff_ne_zero, Ne, Ne, ← UInt16.toNat_inj]
    exact Iff.rfl
  rw [config_eq_ok_iff, DeviceConfig.validate_eq_ok_iff, hseven, hpos]
  constructor
  · rintro ⟨hgiven, hpos, hle, hne⟩
    exact ⟨hgiven, hle, hpos, hne⟩
  · rintro ⟨hgiven, hle, hpos, hne⟩
    exact ⟨hgiven, hpos, hle, hne⟩

/-! ## 4. The device

Opening has three ways to end, one for each stage, and an image that cannot be read is a fourth. -/

section Open

variable {σ ω : Type} {image : Option (List UInt8)} {s : σ}

theorem openDevice_of_unread {e : Failure} (h : o.config = .error e) :
    (o.openDevice (image.map .ok) : Action σ ω Failure Device).run s = ⟨.error e, s, []⟩ := by
  rw [openDevice, h]
  rfl

theorem openDevice_of_refused {fault : ConfigFault} (h : o.config = .ok config)
    (hv : config.validate = .error fault) :
    (o.openDevice (image.map .ok) : Action σ ω Failure Device).run s
      = ⟨.error (.eeprom (.configuration fault)), s, []⟩ := by
  simp only [openDevice, h, Action.ofExcept_ok, pure_bind, Device.create, hv]
  rfl

theorem Describes.run_create (h : o.Describes config) (s : σ) :
    ((Device.create config).mapError .eeprom : Action σ ω Failure Device).run s
      = ⟨.ok (Device.fresh config), s, [.log (.created config.address config.size)]⟩ := by
  simp only [Device.create, (describes_iff.1 h).2]
  rfl

/-- A set-up that can work is made into a device, with nothing but messages on the way.  No image is
as good as an empty one. -/
theorem openDevice_of_described (h : o.Describes config) (image : Option (List UInt8)) (s : σ) :
    ∃ entries : List LogEntry, (o.openDevice (image.map .ok) : Action σ ω Failure Device).run s
      = ⟨.ok (Device.imaged config (image.getD [])), s, entries.map .log⟩ := by
  rw [openDevice, (describes_iff.1 h).1, Action.ofExcept_ok, pure_bind,
    Action.run_bind_of_ok (h.run_create s)]
  rcases image with _ | bytes
  · have hnone : Device.imaged config [] = Device.fresh config := by
      simp [Device.imaged, Store.writeTruncated]
    refine ⟨[.created config.address config.size], ?_⟩
    rw [Option.getD_none, hnone]
    rfl
  · obtain ⟨kept, entries, hload⟩ := Device.run_load (ω := ω) 0 bytes (Device.fresh config)
    have hwithin : (Action.within (Device.fresh config)
        ((Device.load 0 bytes).mapError .eeprom) : Action σ ω Failure (Nat × Device)).run s
          = ⟨.ok (kept, Device.imaged config bytes), s, entries.map .log⟩ := by
      simp only [Action.run, Action.within, Action.mapError] at hload ⊢
      rw [hload]
      rfl
    refine ⟨.created config.address config.size :: entries, ?_⟩
    simp only [Option.map_some, Action.run_bind_of_ok hwithin, Action.run_pure, List.append_nil]
    rfl

/-- An image that cannot be read ends the opening, of a device that is made by then.  So the message
of the new device is in the log, and then the failure. -/
theorem openDevice_of_unreadable (h : o.Describes config) (e : ImageError) (s : σ) :
    (o.openDevice (some (.error e)) : Action σ ω Failure Device).run s
      = ⟨.error (.image e), s, [.log (.created config.address config.size)]⟩ := by
  rw [openDevice, (describes_iff.1 h).1, Action.ofExcept_ok, pure_bind,
    Action.run_bind_of_ok (h.run_create s)]
  rfl

/-- The two ways in which opening can end, if the image can be read.  They exclude each other by the
description alone. -/
theorem openDevice_cases (o : DeviceOptions) (image : Option (List UInt8)) (s : σ) :
    let opened := (o.openDevice (image.map .ok) : Action σ ω Failure Device).run s
    (∃ (config : DeviceConfig) (entries : List LogEntry), o.Describes config ∧
        opened = ⟨.ok (Device.imaged config (image.getD [])), s, entries.map .log⟩) ∨
      ((∀ config, ¬ o.Describes config) ∧ ∃ e, opened = ⟨.error e, s, []⟩) := by
  rcases hconfig : o.config with e | config
  · refine .inr ⟨fun config h => ?_, e, openDevice_of_unread hconfig⟩
    cases hconfig.symm.trans (describes_iff.1 h).1
  · rcases hv : config.validate with fault | ⟨⟩
    · refine .inr ⟨fun other h => ?_, _, openDevice_of_refused hconfig hv⟩
      obtain ⟨hother, hvalid⟩ := describes_iff.1 h
      obtain rfl := Except.ok.inj (hconfig.symm.trans hother)
      cases hv.symm.trans hvalid
    · have h := describes_iff.2 ⟨hconfig, hv⟩
      obtain ⟨entries, hrun⟩ := openDevice_of_described (ω := ω) h image s
      exact .inl ⟨config, entries, h, hrun⟩

/-- Options describe one set-up at most.  A text denotes one number and is written as one pin, or it
is missing. -/
theorem Describes.unique {other : DeviceConfig} (h : o.Describes config)
    (h' : o.Describes other) : config = other :=
  Except.ok.inj ((describes_iff.1 h).1.symm.trans (describes_iff.1 h').1)

/-- **A device is opened as it is described.**  That is so exactly if the options describe a set-up
that can work.  The device then has this set-up and holds the image as far as it fits, with nothing
else done to it.  A peripheral will be told of the two pins of the set-up, by their numbers, and
they are different pins that exist.  And on the way nothing happens but messages: nobody is told of
an access, and nothing else is changed. -/
theorem opens_as_described (o : DeviceOptions) (image : Option (List UInt8)) (s : σ) :
    let opened := (o.openDevice (image.map .ok) : Action σ ω Failure Device).run s
    ((∃ d, opened.result = .ok d) ↔ ∃ config, o.Describes config) ∧
      (∀ d, opened.result = .ok d ↔ o.Describes d.config ∧ d.HoldsImage (image.getD [])) ∧
      (∀ d, opened.result = .ok d →
        d.config.bus.OnTwoPins ∧ d.config.bus.Selects d.config) ∧
      opened.reports = [] ∧ opened.state = s := by
  intro opened
  have hiff : ∀ d, opened.result = .ok d ↔
      o.Describes d.config ∧ d.HoldsImage (image.getD []) := by
    intro d
    rcases openDevice_cases (ω := ω) o image s with ⟨config, entries, h, hrun⟩ | ⟨hnone, e, hrun⟩
    · simp only [opened, hrun, Except.ok.injEq, Device.holdsImage_iff]
      constructor
      · rintro rfl
        exact ⟨h, rfl⟩
      · rintro ⟨hd, hd'⟩
        rw [hd', h.unique hd]
    · simp only [opened, hrun, reduceCtorEq, false_iff]
      exact fun h => hnone d.config h.1
  refine ⟨⟨?_, ?_⟩, hiff, fun d hd => ?_, ?_⟩
  · rintro ⟨d, hd⟩
    exact ⟨d.config, ((hiff d).1 hd).1⟩
  · rintro ⟨config, h⟩
    exact ⟨_, (hiff (Device.imaged config (image.getD []))).2 ⟨h, Device.holdsImage_iff.2 rfl⟩⟩
  · obtain ⟨hconfig, hv⟩ := describes_iff.1 ((hiff d).1 hd).1
    exact ⟨onTwoPins_of_config hconfig hv, d.config.bus_selects⟩
  · rcases openDevice_cases (ω := ω) o image s with ⟨config, entries, -, hrun⟩ | ⟨-, e, hrun⟩
    · simp only [opened, hrun, Outcome.reports, Link.reports_messages, and_self]
    · simp only [opened, hrun, Outcome.reports, List.filterMap_nil, and_self]

end Open

/-- An image that is too long, at the greatest address, with one pin given and the other not. -/
theorem opens_as_described_with_long_image :
    ∃ d, ((DeviceOptions.openDevice ⟨some "0x3", some "127", none, some "1.26"⟩
        (some (.ok [7, 8, 9, 10])) : Action Unit Notification Failure Device).run ()).result
          = .ok d ∧
      d.snapshot = [7, 8, 9] ∧ d.config.address = 127 ∧ d.config.bus.OnTwoPins ∧
      d.config.bus.Selects d.config := by
  have hopened := opens_as_described (ω := Notification)
    ⟨some "0x3", some "127", none, some "1.26"⟩ (some [7, 8, 9, 10]) ()
  have hresult : ((DeviceOptions.openDevice ⟨some "0x3", some "127", none, some "1.26"⟩
      (some (.ok [7, 8, 9, 10])) : Action Unit Notification Failure Device).run ()).result
        = .ok (Device.imaged ⟨127, 3, ⟨0, 26⟩, ⟨1, 26⟩⟩ [7, 8, 9, 10]) := rfl
  exact ⟨_, hresult, rfl, rfl, hopened.2.2.1 _ hresult⟩

end DeviceOptions

end Command

end SerialEeprom
