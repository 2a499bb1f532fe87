/-
# What is stored is printed

A session can put bytes into the device in two ways and get them back in two ways, from inside and
over the bus.  Each way has its own bounds: from inside the last byte is out of reach, and over the
bus the bytes share the receive buffer with their address.  Within its bounds either pair of lines
gives back what was put in, however the numbers and the bytes were spelled.

Three things come together.

* Reading: whatever spells the address, the length and the bytes, a line is read as the instruction
  with their values.  That is the module on spelling, and no more is needed of the spellings here
  than what the readers make of them.
* Doing: storing and fetching reach the same cells, and so do putting and getting on a plain EEPROM.
  The cursor does not matter, as both ways name their address.
* Printing: an instruction over the bus prints the event of each access before its answer, as the
  announcer is told of the access while it is under way (`Announcer.hear_eq`).  From inside there
  are no events.

What a line prints is stated as a whole (`Prints`), so nothing is printed beside what is said.  The
bytes come out in one spelling, in which they can be put in again.

Main statement: the bytes of a line that stores are printed by a line that fetches, and the bytes
of a line that puts by a line that gets, behind the events of both (`stored_bytes_are_printed`).
-/
import SerialEeprom.Proofs.Failures
import SerialEeprom.Proofs.Sessions
import SerialEeprom.Proofs.Spelling

namespace SerialEeprom

variable {config : DeviceConfig}

/-! ## 1. Over the bus -/

namespace Controller

section Access

variable {η ω : Type} [Observer η ω] {l : Link η SimulatedBus} {address : UInt16}

/-- What a read at an address gives and notifies, on a device that has room for an address.  Of its
two transactions the first is not notified. -/
theorem read_effect (h : Reachable config l.target.device) (hb : l.bus.Ready)
    (ha : address < config.size) (hs : 2 ≤ config.size.toNat) (length : Nat) :
    let data := (l.target.device.store.cells.drop address.toNat).take length
    let outcome := (read address length : Call η ω (List UInt8)).run l
    outcome.result = .ok data ∧
      Tells l.target.observer outcome [⟨.read, address.toNat, data.length⟩] := by
  intro data outcome
  have hread := read_follows (η := η) (ω := ω) h hb address length
  have htells : Tells l.target.observer outcome _ := hread.tells
  obtain ⟨hvalue, -, -, htold⟩ :=
    Plain.receive_at (p := h.sound.plain) hs (UInt16.lt_iff_toNat_lt.1 ha) length
  rw [htold] at htells
  exact ⟨hread.result_eq.trans (congrArg _ hvalue), htells⟩

end Access

end Controller

namespace Command

open SerialEeprom.Text Controller

/-- Announcers go on, and announce all that they are told.  By induction on what they are told. -/
theorem Announcer.hear_eq (a : Announcer) (told : List (Device × Notification)) :
    Observer.hear (some a) told = (some a, told.map fun t => .line (a.text t.2)) := by
  induction told with
  | nil => rfl
  | cons t told ih =>
    simp only [Observer.hear, Observer.react, ih]
    rfl

/-- What is told to an announcer is announced.  Values of words are compared by their numbers, which
determine them. -/
theorem announced {α : Type} {a : Announcer} {o : Outcome Bench Output EepromError α}
    {told : List Notification} (h : Tells (some a) o (told.map Notification.completion)) :
    o.state.target.observer = some a ∧ o.reports = told.map fun n => .line (a.text n) := by
  obtain ⟨seen, hseen, hobserver, hreports⟩ := h
  have htold : seen.map Prod.snd = told := by
    apply (List.map_inj_right fun _ _ hn => Notification.completion_injective hn).1
    rw [List.map_map]
    exact hseen
  rw [a.hear_eq] at hobserver hreports
  refine ⟨hobserver, hreports.trans ?_⟩
  rw [← htold, List.map_map]
  rfl

/-! ## 2. One line

What each of the four instructions prints, and what the two that store leave. -/

variable {s : Bench} {line : String} {i : Instruction} {data : List UInt8}

/-- Run on `s`, the action succeeds and prints this.  Nothing else is printed. -/
structure Prints {ε : Type} (a : Action Bench Output ε Unit) (s : Bench) (printed : List Output) :
    Prop where
  result_eq : (a.run s).result = .ok ()
  reports_eq : (a.run s).reports = printed

/-- A line does what it asks for.  It fails for no other reasons than its instruction does. -/
theorem Prints.of_parse {printed : List Output} (h : Prints i.run s printed)
    (hp : Instruction.parse line = .ok (some i)) : Prints (runLine line) s printed := by
  have hline : runLine line = i.run.mapError .eeprom := by rw [runLine, hp]
  rw [hline]
  exact ⟨congrArg (Except.mapError LineError.eeprom) h.result_eq, h.reports_eq⟩

theorem state_runLine (hp : Instruction.parse line = .ok (some i)) (s : Bench) :
    ((runLine line).run s).state = (i.run.run s).state := by
  rw [runLine, hp]
  rfl

/-- What was found is printed behind what was printed on the way.  On the way are the events of the
bus, if there is one. -/
theorem prints_found {a : Action Bench Output EepromError (List UInt8)}
    (h : (a.run s).result = .ok data) :
    Prints (a >>= printBytes) s
      ((a.run s).reports ++ [.line (String.ofList (Hex.spaced data))]) := by
  have hrun : a.run s = ⟨.ok data, (a.run s).state, (a.run s).trace⟩ := by rw [← h]
  constructor
  · rw [Action.run_bind_of_ok hrun]
    rfl
  · rw [Action.run_bind_of_ok hrun]
    exact List.filterMap_append

section Inside

variable {address : UInt16}

theorem store_prints (h : s.target.device.Sound config)
    (hfits : address.toNat + data.length < config.size.toNat) :
    Prints (Instruction.store address data).run s [] ∧
      ((Instruction.store address data).run.run s).state.target.device.store
        = { s.target.device.store with
            cells := overlay s.target.device.store.cells address.toNat data } := by
  have hwrite := Store.write_eq_ok_iff.2 ⟨h.size_eq ▸ hfits, rfl⟩
  refine ⟨⟨?_, ?_⟩, ?_⟩
  · simp only [Instruction.run, Action.run, Link.onDevice, Action.zoom, Device.write, hwrite]
  · simp only [Outcome.reports, Instruction.run, Action.run, Link.onDevice, Action.zoom,
      Device.write, hwrite]
    rfl
  · simp only [Instruction.run, Action.run, Link.onDevice, Action.zoom, Device.write, hwrite]

theorem fetch_prints {length : UInt16}
    (hfits : address.toNat + length.toNat < s.target.device.store.size.toNat)
    (hd : (s.target.device.store.cells.drop address.toNat).take length.toNat = data) :
    Prints (Instruction.fetch address length).run s
      [.line (String.ofList (Hex.spaced data))] := by
  have hread : s.target.device.store.read address length = .ok data :=
    Store.read_eq_ok_iff.2 ⟨hfits, hd.symm⟩
  have hrun : ((Link.onDevice (Device.read address length) :
      Action Bench Output EepromError (List UInt8)).run s) = ⟨.ok data, s, []⟩ := by
    simp only [Action.run, Link.onDevice, Action.zoom, Device.read, Device.found, hread]
    rfl
  have hprints := prints_found (congrArg Outcome.result hrun)
  rw [hrun] at hprints
  exact hprints

end Inside

section Bus

variable {address length : UInt16} (h : Reachable config s.target.device) (hb : s.bus.Ready)
  (ho : s.target.observer = some .terse) (ha : address < config.size)

include h hb ho ha

theorem put_prints (hroom : data.length + 2 ≤ config.size.toNat)
    (hfits : address.toNat + data.length ≤ config.size.toNat) (hl : length.toNat = data.length) :
    let after := ((Instruction.put address data).run.run s).state
    Prints (Instruction.put address data).run s
        (if data = [] then [] else [.line (Announcer.terse.text ⟨.write, address, length⟩)]) ∧
      Reachable config after.target.device ∧ after.bus.Ready ∧
      after.target.observer = some .terse ∧
      after.target.device.store.cells
        = overlay s.target.device.store.cells address.toNat data := by
  intro after
  obtain ⟨hresult, hcells, -, htells, hreachable, hready⟩ :=
    write_effect (η := Announcer) (ω := Output) h hb ha data
  have hstored : min data.length (min (config.size.toNat - 2) (config.size.toNat - address.toNat))
      = data.length := by omega
  have htold : (if data.length = 0 then [] else [⟨.write, address.toNat, data.length⟩])
      = (if data = [] then [] else [⟨.write, address, length⟩] : List Notification).map
          Notification.completion := by
    rcases data with _ | ⟨byte, data⟩
    · rfl
    · simp only [List.length_cons, Nat.add_one_ne_zero, if_false, reduceCtorEq, List.map_cons,
        List.map_nil, Notification.completion, hl]
  rw [hstored, List.take_length] at hcells
  rw [hstored, htold, ho] at htells
  obtain ⟨hobserver, hreports⟩ := announced htells
  refine ⟨⟨hresult, hreports.trans ?_⟩, hreachable, hready, hobserver, hcells⟩
  split
  · rfl
  · rfl

theorem get_prints (hs : 2 ≤ config.size.toNat) {count : UInt32}
    (hd : (s.target.device.store.cells.drop address.toNat).take count.toNat = data)
    (hl : length.toNat = data.length) :
    Prints (Instruction.get address count).run s
      [.line (Announcer.terse.text ⟨.read, address, length⟩),
        .line (String.ofList (Hex.spaced data))] := by
  obtain ⟨hresult, htells⟩ := read_effect (η := Announcer) (ω := Output) h hb ha hs count.toNat
  rw [hd] at hresult htells
  rw [ho, ← hl] at htells
  have hread : Tells (some Announcer.terse) _
      ([⟨.read, address, length⟩].map Notification.completion) := htells
  obtain ⟨-, hreports⟩ := announced hread
  have hprints := prints_found hresult
  rw [hreports] at hprints
  exact hprints

end Bus

/-! ## 3. Pairs of lines

The second line is run on what the first one left. -/

/-- How the lines of a session end, and what each of them prints.  The state in between is not
shown, but each line starts from it. -/
def transcript (s : Bench) (lines : List String) : List (Except LineError Unit × List Output) :=
  (outcomes s (lines.map .readable)).map fun o => (o.result, o.reports)

theorem transcript_two {first second : String} {printed more : List Output}
    (hfirst : Prints (runLine first) s printed)
    (hsecond : Prints (runLine second) ((runLine first).run s).state more) :
    transcript s [first, second] = [(.ok (), printed), (.ok (), more)] := by
  simp only [transcript, outcomes, List.map_cons, List.map_nil, hfirst.result_eq,
    hfirst.reports_eq, hsecond.result_eq, hsecond.reports_eq]

/-- **What is stored is printed.**  However an address, the number of bytes and the bytes are
spelled, in a session on a device of any size:

* bytes stored in front of the last place of the device are printed by a fetch, and nothing else;
* bytes put where they fit both in the device and in the receive buffer are printed by a get,
  behind the event of the write, if it wrote anything, and that of the read;
* bytes as they are printed are a spelling of them. -/
theorem stored_bytes_are_printed (h : Reachable config s.target.device) (hb : s.bus.Ready)
    (ho : s.target.observer = some .terse) {address length : UInt16} {data : List UInt8}
    (hl : length.toNat = data.length) {A B L D : String} (hA : number16 A = .ok address)
    (hB : number16 B = .ok address) (hL : number16 L = .ok length)
    (hD : bytes (words D.toList) = .ok data) :
    let size := config.size.toNat
    let event (kind : String) : Output :=
      .line ("event: " ++ kind ++ s!" {data.length} bytes @ " ++ hex16 address)
    let printed : Output := .line (String.ofList (Hex.spaced data))
    (address.toNat + data.length < size →
        transcript s ["store " ++ A ++ " " ++ D, "fetch " ++ B ++ " " ++ L]
          = [(.ok (), []), (.ok (), [printed])]) ∧
      (address.toNat < size → address.toNat + data.length ≤ size → data.length + 2 ≤ size →
        transcript s ["put " ++ A ++ " " ++ D, "get " ++ B ++ " " ++ L]
          = [(.ok (), if data = [] then [] else [event "write"]),
            (.ok (), [event "read", printed])]) ∧
      bytes (words (Hex.spaced data)) = .ok data := by
  intro size event printed
  have hlength : s.target.device.store.cells.length = size := h.sound.length_cells
  refine ⟨?_, ?_, bytes_spaced data⟩
  · intro hfits
    have hparse := Instruction.parse_store hA hD
    obtain ⟨hstore, hafter⟩ := store_prints h.sound hfits
    rw [← state_runLine hparse] at hafter
    have hback := take_drop_overlay (hlength ▸ Nat.le_of_lt hfits)
    have hfetch : Prints (Instruction.fetch address length).run
        ((runLine ("store " ++ A ++ " " ++ D)).run s).state [printed] := by
      refine fetch_prints ?_ ?_
      · rw [hafter, hl, h.sound.size_eq]
        exact hfits
      · rw [hafter, hl]
        exact hback
    exact transcript_two (hstore.of_parse hparse) (hfetch.of_parse (Instruction.parse_fetch hB hL))
  · intro ha hfits hroom
    have ha : address < config.size := UInt16.lt_iff_toNat_lt.2 ha
    have hparse := Instruction.parse_put hA hD
    -- A get reads its length as a number of thirty-two bits, which is the same number.
    obtain ⟨count, hcount, hsame⟩ := number_of_number16 hL
    obtain ⟨hput, hreachable, hready, hobserver, hcells⟩ := put_prints h hb ho ha hroom hfits hl
    rw [← state_runLine hparse] at hreachable hready hobserver hcells
    have hback := take_drop_overlay (hlength ▸ hfits)
    have hget := get_prints hreachable hready hobserver ha (Nat.le_trans (Nat.le_add_left ..) hroom)
      (by rw [hcells, hsame, hl]; exact hback) hl
    have hkind : ∀ kind : String,
        event kind = .line ("event: " ++ kind ++ s!" {length} bytes @ " ++ hex16 address) := by
      intro kind
      simp only [event, ← hl]
      rfl
    rw [hkind, hkind]
    exact transcript_two (hput.of_parse hparse) (hget.of_parse (Instruction.parse_get hB hcount))

/-- Four bytes in two cases, one of them marked and one with a zero in front, at an address that is
spelled in four ways. -/
theorem stored_bytes_are_printed_as_spelled :
    let config : DeviceConfig := { size := 8 }
    let s := attached ((Device.fresh config).after [.load 0 [7, 7, 7, 7, 7, 7, 7, 7]])
    Reachable config s.target.device ∧ s.bus.Ready ∧
      transcript s ["store 0x3 a FF 0x10  03", "fetch +3 04"]
        = [(.ok (), []), (.ok (), [.line "0a ff 10 03"])] ∧
      transcript s ["put 3 a FF 0x10  03", "get 0X0003 0x4"]
        = [(.ok (), [.line "event: write 4 bytes @ 0x0003"]),
          (.ok (), [.line "event: read 4 bytes @ 0x0003", .line "0a ff 10 03"])] := by
  intro config s
  have h : Reachable config s.target.device := .of_moves rfl _
  have hb : s.bus.Ready := ⟨rfl, rfl⟩
  have hl : (4 : UInt16).toNat = [0x0a, 0xff, 0x10, 0x03].length := rfl
  have hD : bytes (words "a FF 0x10  03".toList) = .ok [0x0a, 0xff, 0x10, 0x03] := rfl
  have hA : number16 "0x3" = .ok 3 := rfl
  have hB : number16 "+3" = .ok 3 := rfl
  have hL : number16 "04" = .ok 4 := rfl
  obtain ⟨hstore, -, -⟩ := stored_bytes_are_printed h hb rfl hl hA hB hL hD
  have hA : number16 "3" = .ok 3 := rfl
  have hB : number16 "0X0003" = .ok 3 := rfl
  have hL : number16 "0x4" = .ok 4 := rfl
  obtain ⟨-, hput, -⟩ := stored_bytes_are_printed h hb rfl hl hA hB hL hD
  exact ⟨h, hb, hstore (by decide), hput (by decide) (by decide) (by decide)⟩

end Command

end SerialEeprom
