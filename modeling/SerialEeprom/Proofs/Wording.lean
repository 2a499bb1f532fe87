/-
# What a line of the log says

Statements about the log speak of messages as values, and leave their wording aside.  That would be
little use to anyone who reads the log, if a line could show another number than its message
carries: a count in place of another, an address without its leading zeros, a size in the wrong
base.  This module closes the gap.  Every message has its `figures`, which are the numbers it
carries, each with the base and the width it is to be shown in; and the line of the message shows
all of them (`line_shows_figures`).

To show a number is more than to contain its digits, since `120` contains those of `12`.  So
`Figure.StandsIn` asks for the column of the number between two characters that are not digits
themselves.  The column is said with `Numeral.Shows`, which is `Numeral.shows_iff` away from the
one text it can be; no formatter occurs in the statement.

The characters beside a column are what the proofs are about.

* Behind a column, the wording always goes on with something else, be it only the line feed: the
  figures are looked for in the line with its line feed.
* In front of a decimal column, the wording ends with a space.  In front of a hexadecimal one it
  ends with the mark `0x`, whose last character is no digit in any base, so it does not matter
  what comes before the mark (`hex16_standsIn`).

What surrounds both does not matter (`StandsIn.behind`, `StandsIn.append`), so a wording with
several numbers is taken apart at each of them in turn.  Reasons and names are texts that somebody
else has made, and pins have a written form of their own; neither counts among the figures.
-/
import SerialEeprom.Log
import SerialEeprom.Proofs.Numerals

namespace SerialEeprom

open SerialEeprom.Text

/-! ## 1. Numbers in a text -/

/-- A number in a text, and the column it is shown in: its base, and how many digits it has at
least. -/
structure Figure where
  base : Nat
  width : Nat
  value : Nat

namespace Figure

/-- A number in decimal, in as many digits as it takes. -/
def decimal (n : Nat) : Figure := ⟨10, 1, n⟩

/-- An address or a size of the contents, in four hexadecimal digits. -/
def hex16 (n : UInt16) : Figure := ⟨16, 4, n.toNat⟩

/-- The number is shown somewhere in the text, between two characters that are no digits and so do
not belong to it. -/
def StandsIn (f : Figure) (text : String) : Prop :=
  ∃ before c column c' after, text.toList = before ++ c :: (column ++ c' :: after) ∧
    Numeral.digit? f.base c = none ∧ Numeral.Shows f.base f.width column f.value ∧
    Numeral.digit? f.base c' = none

variable {f : Figure} {text : String}

theorem StandsIn.append (h : f.StandsIn text) (back : String) : f.StandsIn (text ++ back) := by
  obtain ⟨before, c, column, c', after, htext, hc, hshows, hc'⟩ := h
  refine ⟨before, c, column, c', after ++ back.toList, ?_, hc, hshows, hc'⟩
  rw [String.toList_append, htext, List.append_assoc, List.cons_append, List.append_assoc,
    List.cons_append]

theorem StandsIn.behind (h : f.StandsIn text) (front : String) : f.StandsIn (front ++ text) := by
  obtain ⟨before, c, column, c', after, htext, hc, hshows, hc'⟩ := h
  refine ⟨front.toList ++ before, c, column, c', after, ?_, hc, hshows, hc'⟩
  rw [String.toList_append, htext, List.append_assoc]

end Figure

/-- The text ends with a character that is no digit.  So it is not empty. -/
def EndsApart (base : Nat) (text : String) : Prop :=
  text.toList.getLast?.map (Numeral.digit? base) = some none

/-- The text starts with a character that is no digit.  So it is not empty either. -/
def StartsApart (base : Nat) (text : String) : Prop :=
  text.toList.head?.map (Numeral.digit? base) = some none

theorem EndsApart.behind {base : Nat} {text : String} (h : EndsApart base text) (front : String) :
    EndsApart base (front ++ text) := by
  obtain ⟨c, hlast, hc⟩ := Option.map_eq_some_iff.1 h
  obtain ⟨before, hbefore⟩ := List.getLast?_eq_some_iff.1 hlast
  rw [EndsApart, String.toList_append, hbefore, ← List.append_assoc, List.getLast?_concat]
  exact congrArg some hc

/-- **A column between two texts that keep apart from it stands in the whole.**  Only the last
character in front and the first one behind are looked at. -/
theorem standsIn_of_shows {f : Figure} {front back : String} {column : List Char}
    (hshows : Numeral.Shows f.base f.width column f.value) (hfront : EndsApart f.base front)
    (hback : StartsApart f.base back) : f.StandsIn (front ++ String.ofList column ++ back) := by
  obtain ⟨c, hlast, hc⟩ := Option.map_eq_some_iff.1 hfront
  obtain ⟨before, hbefore⟩ := List.getLast?_eq_some_iff.1 hlast
  obtain ⟨c', hhead, hc'⟩ := Option.map_eq_some_iff.1 hback
  obtain ⟨after, hafter⟩ := List.head?_eq_some_iff.1 hhead
  refine ⟨before, c, column, c', after, ?_, hc, hshows, hc'⟩
  simp only [String.toList_append, String.toList_ofList, hbefore, hafter, List.append_assoc,
    List.cons_append, List.nil_append]

theorem decimal_standsIn (front : String) (n : Nat) (back : String) (hfront : EndsApart 10 front)
    (hback : StartsApart 10 back) :
    (Figure.decimal n).StandsIn (front ++ toString n ++ back) := by
  have hshows : Numeral.Shows 10 1 (Nat.toDigits 10 n) n :=
    Numeral.shows_toDigits (by decide) (by decide) n
  exact standsIn_of_shows (f := .decimal n) hshows hfront hback

theorem hex_standsIn (front : String) {width : Nat} (hwidth : 0 < width) (n : Nat) (back : String)
    (hfront : EndsApart 16 front) (hback : StartsApart 16 back) :
    (Figure.mk 16 width n).StandsIn (front ++ Hex.text width n ++ back) := by
  have hshows : Numeral.Shows 16 width (Hex.padded width n) n :=
    Numeral.shows_leftpad (by decide) (by decide) hwidth n
  exact standsIn_of_shows (f := ⟨16, width, n⟩) hshows hfront hback

/-- The mark keeps its digits apart from whatever stands in front.  Its last character is no digit,
and the zero before it is not next to them. -/
theorem hex16_standsIn (front : String) (n : UInt16) (back : String)
    (hback : StartsApart 16 back) :
    (Figure.hex16 n).StandsIn (front ++ hex16 n ++ back) := by
  have hmark : EndsApart 16 "0x" := rfl
  have hfour : 0 < 4 := by decide
  have hstands := hex_standsIn (front ++ "0x") hfour n.toNat back (hmark.behind front) hback
  have hassoc : front ++ "0x" ++ Hex.text 4 n.toNat = front ++ hex16 n := String.append_assoc
  rwa [hassoc] at hstands

/-! ## 2. The numbers of a message

A number that is the last of its line has the line feed behind it. -/

namespace LogEntry

/-- The numbers that a message carries, in the order in which it shows them.  A message that only
passes on a text has none. -/
def figures : LogEntry → List Figure
  | refused ⟨address, length, size⟩ => [.decimal length, .hex16 address, .hex16 size]
  | created address size => [⟨16, 2, address.toNat⟩, .hex16 size]
  | enabling config =>
    [.decimal config.address.toNat, .decimal config.sda.toNat, .decimal config.scl.toNat]
  | listening config => [⟨16, 2, config.address.toNat⟩]
  | stored count address | loaded count address | written count address
  | readDone count address => [.decimal count, .hex16 address]
  | imageTruncated length kept address => [.decimal length, .decimal kept, .hex16 address]
  | strayWrite count | shortWrite count | bytesDropped count | strayRead count
  | refusedBytes count => [.decimal count]
  | farAddress address size => [.hex16 address, .hex16 size]
  | addressSet address => [.hex16 address]
  | overread claimed offered => [.decimal claimed, .decimal offered]
  | busEvent (.writeDone count) | busEvent (.readDone count) => [.decimal count]
  | registerSet _ value => [.decimal value.toNat]
  | registerMissing _ address size => [.hex16 address, .hex16 size]
  | lineFailed line _ => [.decimal line]
  | enableFailed _ | receiveRefused _ | offerRefused _ | busFault _ | busEvent _
  | runFailed _ => []

/-- A count alone, with words on both sides of it. -/
theorem count_standsIn (front : String) (count : Nat) (back : String)
    (hfront : EndsApart 10 front) (hback : StartsApart 10 back) :
    ∀ f ∈ [Figure.decimal count], f.StandsIn (front ++ toString count ++ back ++ "\n") := by
  have hcount := decimal_standsIn front count back hfront hback
  exact List.forall_mem_singleton.2 (hcount.append _)

/-- A count at an address, with which the line ends.  Four messages have this form, and one has it
at its end. -/
theorem count_at_standIn (front : String) (count : Nat) (middle : String) (address : UInt16)
    (hfront : EndsApart 10 front) (hmiddle : StartsApart 10 middle) :
    ∀ f ∈ [Figure.decimal count, .hex16 address],
      f.StandsIn (front ++ toString count ++ middle ++ hex16 address ++ "\n") := by
  have hcount := decimal_standsIn front count middle hfront hmiddle
  have haddress := hex16_standsIn (front ++ toString count ++ middle) address "\n" rfl
  exact List.forall_mem_cons.2
    ⟨(hcount.append _).append _, List.forall_mem_singleton.2 haddress⟩

/-- An address and a size, with which the line ends.  Both are hexadecimal, so each is kept apart by
its mark. -/
theorem address_size_standIn (front : String) (address : UInt16) (middle : String)
    (size : UInt16) (hmiddle : StartsApart 16 middle) :
    ∀ f ∈ [Figure.hex16 address, .hex16 size],
      f.StandsIn (front ++ hex16 address ++ middle ++ hex16 size ++ "\n") := by
  have haddress := hex16_standsIn front address middle hmiddle
  have hsize := hex16_standsIn (front ++ hex16 address ++ middle) size "\n" rfl
  exact List.forall_mem_cons.2
    ⟨(haddress.append _).append _, List.forall_mem_singleton.2 hsize⟩

/-- An access that was refused is shown with all that decides whether it stays in bounds.  Its
wording is taken apart at each number in turn. -/
theorem refused_figures_standIn (access : OutOfBounds) :
    ∀ f ∈ (refused access).figures, f.StandsIn ((refused access).text ++ "\n") := by
  have htext : (refused access).text = "Data out of bounds: " ++ toString access.length
      ++ " bytes @ " ++ hex16 access.address ++ " (size " ++ hex16 access.size ++ ")" := rfl
  have hlength := decimal_standsIn "Data out of bounds: " access.length " bytes @ " rfl rfl
  have haddress := hex16_standsIn ("Data out of bounds: " ++ toString access.length
    ++ " bytes @ ") access.address " (size " rfl
  have hsize := hex16_standsIn ("Data out of bounds: " ++ toString access.length
    ++ " bytes @ " ++ hex16 access.address ++ " (size ") access.size ")" rfl
  rw [htext]
  refine List.forall_mem_cons.2 ⟨?_, List.forall_mem_cons.2 ⟨?_, List.forall_mem_singleton.2 ?_⟩⟩
  · exact ((((hlength.append _).append _).append _).append _).append _
  · exact ((haddress.append _).append _).append _
  · exact hsize.append _

/-- An image that was cut is shown with both of its lengths.  Behind the first of them the wording
is a count at an address. -/
theorem imageTruncated_figures_standIn (length kept : Nat) (address : UInt16) :
    ∀ f ∈ (imageTruncated length kept address).figures,
      f.StandsIn ((imageTruncated length kept address).text ++ "\n") := by
  have htext : (imageTruncated length kept address).text = "Image of " ++ toString length
      ++ " bytes truncated to " ++ toString kept ++ " bytes @ " ++ hex16 address := rfl
  have hwords : EndsApart 10 " bytes truncated to " := rfl
  have hlength := decimal_standsIn "Image of " length " bytes truncated to " rfl rfl
  have hkept := count_at_standIn ("Image of " ++ toString length ++ " bytes truncated to ") kept
    " bytes @ " address (hwords.behind _) rfl
  rw [htext]
  exact List.forall_mem_cons.2
    ⟨(((hlength.append _).append _).append _).append _, hkept⟩

theorem shown_compact_config (config : BusConfig) :
    config.shown.compact = "BusConfig \x7b address: " ++ toString config.address
      ++ ", sda_psel: " ++ toString config.sda ++ ", scl_psel: " ++ toString config.scl
      ++ " \x7d" := by
  rw [← String.toList_inj]
  simp [BusConfig.shown, Shown.compact, Fields.ofAtoms, Fields.compact]

/-- The settings of the bus are shown with the numbers they hold.  They stand in a record, which is
compact text by then. -/
theorem enabling_figures_standIn (config : BusConfig) :
    ∀ f ∈ (enabling config).figures, f.StandsIn ((enabling config).text ++ "\n") := by
  have htext : (enabling config).text = "Initializing EEPROM target: " ++ config.shown.compact :=
    rfl
  have hwords : EndsApart 10 ", sda_psel: " := rfl
  have hwords' : EndsApart 10 ", scl_psel: " := rfl
  have haddress := decimal_standsIn "BusConfig \x7b address: " config.address.toNat ", sda_psel: "
    rfl rfl
  have hsda := decimal_standsIn ("BusConfig \x7b address: " ++ toString config.address
    ++ ", sda_psel: ") config.sda.toNat ", scl_psel: " (hwords.behind _) rfl
  have hscl := decimal_standsIn ("BusConfig \x7b address: " ++ toString config.address
    ++ ", sda_psel: " ++ toString config.sda ++ ", scl_psel: ") config.scl.toNat " \x7d"
    (hwords'.behind _) rfl
  rw [htext, shown_compact_config]
  refine List.forall_mem_cons.2 ⟨?_, List.forall_mem_cons.2 ⟨?_, List.forall_mem_singleton.2 ?_⟩⟩
  · exact (((((haddress.append _).append _).append _).append _).behind _).append _
  · exact (((hsda.append _).append _).behind _).append _
  · exact (hscl.behind _).append _

theorem shown_compact_done (count : Nat) :
    (BusEvent.writeDone count).shown.compact
        = "WriteDone \x7b rx_amount: " ++ toString count ++ " \x7d" ∧
      (BusEvent.readDone count).shown.compact
        = "ReadDone \x7b tx_amount: " ++ toString count ++ " \x7d" := by
  constructor
  · rw [← String.toList_inj]
    simp [BusEvent.shown, Shown.compact, Fields.ofAtoms, Fields.compact]
  · rw [← String.toList_inj]
    simp [BusEvent.shown, Shown.compact, Fields.ofAtoms, Fields.compact]

/-- The end of an access is shown with the amount the peripheral reports. -/
theorem busEvent_figures_standIn (event : BusEvent) :
    ∀ f ∈ (busEvent event).figures, f.StandsIn ((busEvent event).text ++ "\n") := by
  -- By `rfl`, since to unfold `text` is to go through all messages.
  have htext : (busEvent event).text = "Bus event " ++ event.shown.compact := rfl
  rw [htext]
  cases event with
  | writeDone count =>
    have hcount := decimal_standsIn "WriteDone \x7b rx_amount: " count " \x7d" rfl rfl
    rw [(shown_compact_done count).1]
    exact List.forall_mem_singleton.2 ((hcount.behind _).append _)
  | readDone count =>
    have hcount := decimal_standsIn "ReadDone \x7b tx_amount: " count " \x7d" rfl rfl
    rw [(shown_compact_done count).2]
    exact List.forall_mem_singleton.2 ((hcount.behind _).append _)
  | writeRequested | readRequested | fault kind => exact fun f hf => absurd hf List.not_mem_nil

/-- One case for each message; those with several numbers have their own lemma above. -/
theorem text_shows_figures (e : LogEntry) : ∀ f ∈ e.figures, f.StandsIn (e.text ++ "\n") := by
  cases e with
  | refused access => exact refused_figures_standIn access
  | created address size =>
    have htwo : 0 < 2 := by decide
    have haddress := hex_standsIn "Creating virtual EEPROM @ 0x" htwo address.toNat ", size " rfl
      rfl
    have hsize := hex16_standsIn ("Creating virtual EEPROM @ 0x" ++ Hex.text 2 address.toNat
      ++ ", size ") size "\n" rfl
    exact List.forall_mem_cons.2
      ⟨(haddress.append _).append _, List.forall_mem_singleton.2 hsize⟩
  | enabling config => exact enabling_figures_standIn config
  | listening config =>
    have htwo : 0 < 2 := by decide
    have haddress := hex_standsIn "Virtual EEPROM listening @ 0x" htwo config.address.toNat
      " (SDA " rfl rfl
    exact List.forall_mem_singleton.2
      (((((haddress.append _).append _).append _).append _).append _)
  | stored count address =>
    exact count_at_standIn "Internally written " count " bytes to " address rfl rfl
  | imageTruncated length kept address => exact imageTruncated_figures_standIn length kept address
  | loaded count address => exact count_at_standIn "Loaded " count " bytes @ " address rfl rfl
  | strayWrite count =>
    exact count_standsIn "Write of " count " bytes without receive buffer, dropped" rfl rfl
  | shortWrite count =>
    exact count_standsIn "Write of " count " bytes too short for an address, ignored" rfl rfl
  | farAddress address size =>
    exact address_size_standIn "Address " address " exceeds size " size rfl
  | addressSet address =>
    exact List.forall_mem_singleton.2 (hex16_standsIn "Set address to " address "\n" rfl)
  | bytesDropped count =>
    exact count_standsIn "Dropped " count " bytes beyond end of device" rfl rfl
  | written count address => exact count_at_standIn "Written " count " bytes @ " address rfl rfl
  | strayRead count =>
    exact count_standsIn "Read of " count " bytes without transmit buffer, dropped" rfl rfl
  | overread claimed offered =>
    have hwords : EndsApart 10 " bytes read, only " := rfl
    have hclaimed := decimal_standsIn "Peripheral reports " claimed " bytes read, only " rfl rfl
    have hoffered := decimal_standsIn ("Peripheral reports " ++ toString claimed
      ++ " bytes read, only ") offered " were offered" (hwords.behind _) rfl
    exact List.forall_mem_cons.2 ⟨((hclaimed.append _).append _).append _,
      List.forall_mem_singleton.2 (hoffered.append _)⟩
  | readDone count address => exact count_at_standIn "Read " count " bytes @ " address rfl rfl
  | busEvent event => exact busEvent_figures_standIn event
  | refusedBytes count =>
    exact count_standsIn "Receive buffer full, NACKing " count " bytes" rfl rfl
  | registerSet name value =>
    have htext : (registerSet name value).text = "Set " ++ name ++ (" = " ++ toString value) := rfl
    have hvalue := decimal_standsIn " = " value.toNat "\n" rfl rfl
    rw [htext, String.append_assoc]
    exact List.forall_mem_singleton.2 (hvalue.behind _)
  | registerMissing name address size =>
    exact address_size_standIn ("Register " ++ name ++ " @ ") address " beyond device of size "
      size rfl
  | lineFailed line reason =>
    have hline := decimal_standsIn "line " line ": " rfl rfl
    exact List.forall_mem_singleton.2 ((hline.append _).append _)
  | enableFailed reason | receiveRefused reason | offerRefused reason | busFault fault
  | runFailed reason => exact fun f hf => absurd hf List.not_mem_nil

/-- **The line of a message shows every number that the message carries**, each in its base and
its column. -/
theorem line_shows_figures (e : LogEntry) : ∀ f ∈ e.figures, f.StandsIn (e.line ++ "\n") := by
  intro f hf
  have hline : e.line ++ "\n" = e.level.name ++ " " ++ (e.text ++ "\n") := String.append_assoc
  rw [hline]
  exact (text_shows_figures e f hf).behind _

end LogEntry

end SerialEeprom
