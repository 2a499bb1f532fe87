/-
# What a dump holds

A dump is laid out row by row: sixteen bytes at a time, each row behind its offset.  What stands in
a row is said here without the functions that write it (`IsRow`): the offset in a column of eight
digits, and the bytes in columns of two, in base sixteen and without capitals, with a space before
each and one more before the ninth.  A column is determined by its number (`Numeral.shows_iff`), and
so is a row by its offset and its bytes (`isRow_iff`).

A dump can as well be written in one pass over the bytes, in which the place of a byte alone decides
what stands around it: an offset before every sixteenth, a gap before the others that are eighth, a
line feed behind the fifteenth.  The two agree at every length (`text_eq_pass`), the row that is not
full included, which is the only one whose line feed no byte brings with it.

All that a row holds beside its bytes is its offset, which is one word, and so is each byte.  So the
bytes are read back word by word (`readBack_text`), by the reader that a session uses for bytes, and
nothing of them is lost.  Without its blanks a row is the offset and the run of its bytes, digit by
digit (`filter_row`).

The last line is not a row.  It has the number of bytes, in a column like that of an offset, which
is how the end of a dump is known from a dump that was cut.

Main statement: the lines of a dump, one for each sixteen bytes begun and one more, and that the
bytes can be had from its text again, so that no two lists of bytes have the same dump
(`dump_loses_nothing`).
-/
import SerialEeprom.Proofs.Arguments

namespace SerialEeprom.Text.Hexdump

variable {bytes : List UInt8} {offset k : Nat}

/-! ## 1. What stands in a row

Said without a formatter: numbers stand in columns, whose width, digits and value are those of
`Numeral.Shows`, and a row puts columns one behind the other. -/

/-- Words as they stand in a row from its place `k` on: a space before each, and two before the
ninth. -/
def spread (k : Nat) (ws : List (List Char)) : List Char :=
  (ws.zipIdx k).flatMap fun (w, j) => (if j = 8 then [' ', ' '] else [' ']) ++ w

theorem spread_cons (k : Nat) (w : List Char) (ws : List (List Char)) :
    spread k (w :: ws) = (if k = 8 then [' ', ' '] else [' ']) ++ w ++ spread (k + 1) ws := by
  simp [spread, List.zipIdx_cons]

theorem spread_append (k : Nat) (left right : List (List Char)) :
    spread k (left ++ right) = spread k left ++ spread (k + left.length) right := by
  simp [spread, List.zipIdx_append]

/-- A row of at most sixteen bytes: the offset in a column of eight digits, and behind it the bytes
in order, each in a column of two, with a space before each and one more before the ninth. -/
def IsRow (offset : Nat) (bytes : List UInt8) (line : List Char) : Prop :=
  ∃ column cells, Numeral.Shows 16 8 column offset ∧
    List.Forall₂ (fun b cell => Numeral.Shows 16 2 cell b.toNat) bytes cells ∧
    line = column ++ ' ' :: spread 0 cells

theorem shows_padded {width : Nat} (hwidth : 0 < width) (n : Nat) :
    Numeral.Shows 16 width (Hex.padded width n) n :=
  Numeral.shows_leftpad (by decide) (by decide) hwidth n

theorem shows_byte_iff {b : UInt8} {cs : List Char} :
    Numeral.Shows 16 2 cs b.toNat ↔ cs = Hex.byte b := by
  rw [Numeral.shows_iff (by decide) (by decide) (by decide),
    Numeral.leftpad_two (by decide) b.toNat_lt, Hex.byte]

/-- **Nothing in a row is left open**: there is one line for an offset and the bytes behind it.  The
line on the right is the one that is written. -/
theorem isRow_iff {line : List Char} :
    IsRow offset bytes line ↔
      line = Hex.padded 8 offset ++ ' ' :: spread 0 (bytes.map Hex.byte) := by
  constructor
  · rintro ⟨column, cells, hcolumn, hcells, rfl⟩
    have hsame : List.Forall₂ Eq (bytes.map Hex.byte) cells :=
      List.forall₂_map_left_iff.2 (hcells.imp fun _ _ h => (shows_byte_iff.1 h).symm)
    rw [List.forall₂_eq_eq_eq] at hsame
    rw [← hsame, hcolumn.unique (by decide) (shows_padded (by decide) offset)]
  · rintro rfl
    refine ⟨_, _, shows_padded (by decide) offset, ?_, rfl⟩
    simp only [shows_byte_iff, List.forall₂_map_right_iff, List.forall₂_same, implies_true]

/-! ## 2. Two ways to write it

The pass is compared with the rows by induction along the rows; within one, along its bytes. -/

/-- The text of a dump: its lines, with a line feed behind each.  It is what is seen when the lines
are printed. -/
def text (bytes : List UInt8) : List Char :=
  (lines bytes).flatMap (· ++ ['\n'])

/-- What one byte brings with it in a pass over all, by its place.  The byte itself has a space
before it in any case. -/
def piece (b : UInt8) (i : Nat) : List Char :=
  (if i % 16 = 0 then Hex.padded 8 i ++ [' '] else if i % 8 = 0 then [' '] else []) ++ cell b ++
    if i % 16 = 15 then ['\n'] else []

/-- The text as one pass over the bytes writes it.  What no byte brings is added at the end: a line
feed if the last row is not full, and the number. -/
def pass (bytes : List UInt8) : List Char :=
  (bytes.zipIdx.flatMap fun (b, i) => piece b i) ++
    (if bytes.length % 16 = 0 then [] else ['\n']) ++ Hex.padded 8 bytes.length ++ ['\n']

/-- Away from the ninth place there is no gap.  The bytes lie either all before it or all behind. -/
theorem spread_of_ne (h : k + bytes.length ≤ 8 ∨ 8 < k) :
    spread k (bytes.map Hex.byte) = bytes.flatMap cell := by
  induction bytes generalizing k with
  | nil => rfl
  | cons b bytes ih =>
    rw [List.length_cons] at h
    rw [List.map_cons, spread_cons, if_neg (by omega), ih (by omega), List.flatMap_cons]
    rfl

theorem row_eq (offset : Nat) (bytes : List UInt8) :
    row offset bytes = Hex.padded 8 offset ++ ' ' :: spread 0 (bytes.map Hex.byte) := by
  have hleft : spread 0 ((bytes.take 8).map Hex.byte) = (bytes.take 8).flatMap cell :=
    spread_of_ne (.inl (by simp))
  have hright : spread (bytes.take 8).length ((bytes.drop 8).map Hex.byte)
      = if bytes.drop 8 = [] then [] else ' ' :: (bytes.drop 8).flatMap cell := by
    rcases hd : bytes.drop 8 with _ | ⟨b, rest⟩
    · rfl
    · -- Something is left behind the first eight, so there are eight.
      have hlength : (bytes.take 8).length = 8 := by
        have h := congrArg List.length hd
        rw [List.length_drop, List.length_cons] at h
        rw [List.length_take]
        omega
      rw [hlength, List.map_cons, spread_cons, if_pos rfl, spread_of_ne (.inr (by omega))]
      simp [cell]
  calc row offset bytes
      = Hex.padded 8 offset ++ ' ' :: (spread 0 ((bytes.take 8).map Hex.byte)
          ++ spread (0 + ((bytes.take 8).map Hex.byte).length)
            ((bytes.drop 8).map Hex.byte)) := by
        rw [hleft, Nat.zero_add, List.length_map, hright]
        simp [row]
    _ = Hex.padded 8 offset ++ ' ' :: spread 0 (bytes.map Hex.byte) := by
        rw [← spread_append, ← List.map_append, List.take_append_drop]

/-- Behind the first byte of a row no offset comes, and the line feed comes with the sixteenth.  The
induction is on the bytes that are left of the row. -/
theorem flatMap_piece_of_pos (hoffset : offset % 16 = 0) (hk : 0 < k)
    (hfits : k + bytes.length ≤ 16) :
    ((bytes.zipIdx (offset + k)).flatMap fun (b, i) => piece b i)
      = spread k (bytes.map Hex.byte)
        ++ if k < 16 ∧ k + bytes.length = 16 then ['\n'] else [] := by
  induction bytes generalizing k with
  | nil => simp [spread, show ¬ (k < 16 ∧ k = 16) by omega]
  | cons b bytes ih =>
    rw [List.length_cons] at hfits
    have hplace : (offset + k) % 16 = k := by omega
    have hgap : (offset + k) % 8 = 0 ↔ k = 8 := by omega
    rw [List.zipIdx_cons, List.flatMap_cons, Nat.add_assoc, ih (by omega) (by omega), List.map_cons,
      spread_cons]
    simp only [piece, cell, hplace, hgap, if_neg (Nat.ne_of_gt hk), List.length_cons]
    -- With the sixteenth byte the row ends, and no bytes are left for it.
    rcases Nat.lt_or_ge k 15 with hlt | hge
    · rw [if_neg (by omega : ¬ k = 15)]
      simp only [show (k + 1 < 16 ∧ k + 1 + bytes.length = 16 ↔
        k < 16 ∧ k + (bytes.length + 1) = 16) by omega]
      split <;> simp
    · obtain rfl : bytes = [] := List.eq_nil_of_length_eq_zero (by omega)
      obtain rfl : k = 15 := by simp at hfits; omega
      simp [spread]

/-- A pass over the bytes of one row writes the row, and ends it if it is full.  The row starts
where a multiple of sixteen is, so places in it are places in the pass. -/
theorem flatMap_piece (hoffset : offset % 16 = 0) (hne : bytes ≠ []) (hfits : bytes.length ≤ 16) :
    ((bytes.zipIdx offset).flatMap fun (b, i) => piece b i)
      = row offset bytes ++ if bytes.length = 16 then ['\n'] else [] := by
  rcases bytes with _ | ⟨b, bytes⟩
  · exact absurd rfl hne
  · rw [List.length_cons] at hfits
    rw [row_eq, List.zipIdx_cons, List.flatMap_cons,
      flatMap_piece_of_pos hoffset Nat.zero_lt_one (by omega), List.map_cons, spread_cons]
    simp [piece, cell, hoffset, Nat.add_comm 1]

theorem flatMap_rows (hoffset : offset % 16 = 0) :
    (rows offset bytes).flatMap (· ++ ['\n'])
      = ((bytes.zipIdx offset).flatMap fun (b, i) => piece b i)
        ++ if bytes.length % 16 = 0 then [] else ['\n'] := by
  induction offset, bytes using rows.induct with
  | case1 offset => simp [rows]
  | case2 offset b rest ih =>
    rw [rows, List.flatMap_cons, ih (by simp only [width]; omega)]
    generalize hbytes : b :: rest = bytes
    have hne : bytes ≠ [] := hbytes ▸ List.cons_ne_nil b rest
    have htake : bytes.take width ≠ [] := by simp [width, hne]
    have hrow := flatMap_piece hoffset htake (by simp [width])
    rw [← List.take_append_drop width bytes, List.zipIdx_append, List.flatMap_append,
      List.take_append_drop, hrow]
    rcases Nat.lt_or_ge bytes.length width with hlt | hge
    · -- The last row is not full.
      have hdrop : bytes.drop width = [] := List.drop_eq_nil_of_le (Nat.le_of_lt hlt)
      have hpos : 0 < bytes.length := List.length_pos_of_ne_nil hne
      simp only [width] at hlt hdrop ⊢
      simp [hdrop, List.take_of_length_le (Nat.le_of_lt hlt), Nat.mod_eq_of_lt hlt,
        Nat.ne_of_lt hlt, Nat.ne_of_gt hpos]
    · have hlength : (bytes.take width).length = 16 := List.length_take_of_le hge
      have hrest : (bytes.length - 16) % 16 = bytes.length % 16 := by
        simp only [width] at hge
        omega
      rw [hlength, List.length_drop, width, hrest]
      simp

/-- **A dump can be written in one pass.**  The rows and the pass count the same places, and the
last row decides about the line feed. -/
theorem text_eq_pass (bytes : List UInt8) : text bytes = pass bytes := by
  rw [text, lines, List.flatMap_append, flatMap_rows (Nat.zero_mod 16), pass]
  simp

/-! ## 3. Its lines

The rows as a list by their number, each with its own sixteen bytes. -/

/-- How many rows a number of bytes begins.  It is rounded up; no bytes begin no row. -/
def rowCount (length : Nat) : Nat :=
  (length + 15) / 16

/-- The bytes of a row, counted from zero. -/
def chunk (bytes : List UInt8) (i : Nat) : List UInt8 :=
  (bytes.drop (16 * i)).take 16

theorem rows_eq (offset : Nat) (bytes : List UInt8) :
    rows offset bytes = (List.range (rowCount bytes.length)).map fun i =>
      row (offset + 16 * i) (chunk bytes i) := by
  induction offset, bytes using rows.induct with
  | case1 offset => simp [rows, rowCount]
  | case2 offset b rest ih =>
    have hcount : rowCount (b :: rest).length
        = rowCount ((b :: rest).drop width).length + 1 := by
      simp only [rowCount, List.length_drop, List.length_cons, width]
      omega
    rw [rows, ih, hcount, List.range_succ_eq_map, List.map_cons, List.map_map]
    simp only [chunk, List.drop_drop, Function.comp_def, width, Nat.mul_zero, Nat.add_zero,
      List.drop_zero, Nat.succ_eq_add_one, Nat.mul_add, Nat.mul_one, Nat.add_assoc,
      Nat.add_comm 16]

theorem lines_eq (bytes : List UInt8) :
    lines bytes = ((List.range (rowCount bytes.length)).map fun i =>
        Hex.padded 8 (16 * i) ++ ' ' :: spread 0 ((chunk bytes i).map Hex.byte))
      ++ [Hex.padded 8 bytes.length] := by
  simp only [lines, rows_eq, row_eq, Nat.zero_add]

/-- **Each line but the last is the row of its sixteen bytes.**  The last of the rows may have
fewer, which are then all that is left. -/
theorem isRow_rows (bytes : List UInt8) :
    List.Forall₂ (fun i line => IsRow (16 * i) (chunk bytes i) line)
      (List.range (rowCount bytes.length)) (rows 0 bytes) := by
  simp only [rows_eq, row_eq, isRow_iff, Nat.zero_add, List.forall₂_map_right_iff,
    List.forall₂_same, implies_true]

theorem isWord_padded (n : Nat) : IsWord (Hex.padded 8 n) :=
  isWord_of_read ((Numeral.read_eq_ok_iff (by decide) n.succ_pos).2
    ⟨Numeral.spells_leftpad (by decide) (by decide) 8 n, n.lt_succ_self⟩)

theorem isWord_of_mem_map_byte : ∀ w ∈ bytes.map Hex.byte, IsWord w := by
  intro w hw
  obtain ⟨b, -, rfl⟩ := List.mem_map.1 hw
  exact isWord_of_read (Hex.read_byte b)

theorem filter_spread (k : Nat) {ws : List (List Char)} (h : ∀ w ∈ ws, IsWord w) :
    (spread k ws).filter (fun c => !isBlank c) = ws.flatten := by
  induction ws generalizing k with
  | nil => rfl
  | cons w ws ih =>
    obtain ⟨hw, hws⟩ := List.forall_mem_cons.1 h
    have hgap : (if k = 8 then [' ', ' '] else [' ']).filter (fun c => !isBlank c) = [] := by
      split <;> rfl
    rw [spread_cons, List.filter_append, List.filter_append, hgap, hw.filter_eq, ih (k + 1) hws]
    rfl

/-- Without its blanks a row is its offset and the run of its bytes.  Spaces and the gap are all
that was put between. -/
theorem filter_row (offset : Nat) (bytes : List UInt8) :
    (row offset bytes).filter (fun c => !isBlank c) = Hex.padded 8 offset ++ Hex.run bytes := by
  have hrun : (bytes.map Hex.byte).flatten = Hex.run bytes := rfl
  rw [row_eq, List.filter_append, (isWord_padded offset).filter_eq, List.filter_cons_of_neg,
    filter_spread 0 isWord_of_mem_map_byte, hrun]
  exact fun h => Bool.noConfusion h

/-- The rows together are all the bytes.  No byte is between two rows, and none is in both. -/
theorem flatMap_chunk (bytes : List UInt8) :
    (List.range (rowCount bytes.length)).flatMap (chunk bytes) = bytes := by
  have hupto : ∀ count,
      (List.range count).flatMap (chunk bytes) = bytes.take (16 * count) := by
    intro count
    induction count with
    | zero => simp
    | succ count ih =>
      rw [List.range_succ, List.flatMap_append, ih, Nat.mul_succ, List.take_add]
      simp [chunk]
  rw [hupto]
  refine List.take_of_length_le ?_
  simp only [rowCount]
  omega

/-! ## 4. Reading it back

Cut at its line feeds, and each line at its blanks. -/

/-- The bytes of a row: its words without the first, which is the offset.  They are read as the
bytes of a line in a session are. -/
def readRow (line : List Char) : Except Command.ArgumentError (List UInt8) :=
  Command.bytes (words line).tail

/-- The bytes of a dump: those of all its lines but the last, which is their number.  Behind the
last line feed there is no line. -/
def readBack (text : List Char) : Except Command.ArgumentError (List UInt8) := do
  let found ← ((text.splitOn '\n').dropLast.dropLast).mapM readRow
  pure found.flatten

/-- A word in front is read apart, since what is spread starts with a space.  If nothing is spread,
the word is all there is. -/
theorem words_append_spread {w : List Char} (hw : IsWord w) (k : Nat) (ws : List (List Char)) :
    words (w ++ spread k ws) = w :: words (spread k ws) := by
  rcases ws with _ | ⟨v, ws⟩
  · simp [spread, hw.words_eq]
  · obtain ⟨rest, hrest⟩ : ∃ rest, spread k (v :: ws) = ' ' :: rest := by
      rw [spread_cons]
      split <;> exact ⟨_, rfl⟩
    rw [hrest, hw.words_append rfl, words_cons_blank rfl]

theorem words_spread (k : Nat) {ws : List (List Char)} (h : ∀ w ∈ ws, IsWord w) :
    words (spread k ws) = ws := by
  induction ws generalizing k with
  | nil => simp [spread]
  | cons w ws ih =>
    obtain ⟨hw, hws⟩ := List.forall_mem_cons.1 h
    have hrest : words (w ++ spread (k + 1) ws) = w :: ws := by
      rw [words_append_spread hw, ih (k + 1) hws]
    rw [spread_cons]
    split
    next => rw [List.append_assoc, List.cons_append, words_cons_blank rfl, List.singleton_append,
      words_cons_blank rfl, hrest]
    next => rw [List.append_assoc, List.singleton_append, words_cons_blank rfl, hrest]

/-- **A row gives its bytes back.**  The offset is dropped as a word, whatever its length. -/
theorem readRow_spread (offset : Nat) (bytes : List UInt8) :
    readRow (Hex.padded 8 offset ++ ' ' :: spread 0 (bytes.map Hex.byte)) = .ok bytes := by
  have hbytes : bytes.map Hex.byte = words (Hex.spaced bytes) := (Hex.words_spaced bytes).symm
  rw [readRow, (isWord_padded offset).words_append rfl, words_spread 0 isWord_of_mem_map_byte,
    List.tail_cons, hbytes, Command.bytes_spaced]

theorem newline_not_mem_of_isWord {w : List Char} (h : IsWord w) : '\n' ∉ w := fun hmem =>
  Bool.noConfusion ((h.not_blank _ hmem).symm.trans rfl)

theorem newline_not_mem_spread (k : Nat) {ws : List (List Char)} (h : ∀ w ∈ ws, IsWord w) :
    '\n' ∉ spread k ws := by
  induction ws generalizing k with
  | nil => exact List.not_mem_nil
  | cons w ws ih =>
    obtain ⟨hw, hws⟩ := List.forall_mem_cons.1 h
    rw [spread_cons]
    split <;> simp [newline_not_mem_of_isWord hw, ih (k + 1) hws]

theorem newline_not_mem_lines (bytes : List UInt8) : ∀ line ∈ lines bytes, '\n' ∉ line := by
  intro line hline
  rw [lines_eq, List.mem_append, List.mem_map, List.mem_singleton] at hline
  rcases hline with ⟨i, -, rfl⟩ | rfl
  · simp [newline_not_mem_of_isWord (isWord_padded _),
      newline_not_mem_spread 0 isWord_of_mem_map_byte]
  · exact newline_not_mem_of_isWord (isWord_padded _)

/-- Lines that are ended by line feeds are cut there again.  Behind the last line feed there is an
empty piece. -/
theorem splitOn_ended {ls : List (List Char)} (h : ∀ line ∈ ls, '\n' ∉ line) :
    (ls.flatMap (· ++ ['\n'])).splitOn '\n' = ls ++ [[]] := by
  induction ls with
  | nil => rfl
  | cons line ls ih =>
    obtain ⟨hline, hls⟩ := List.forall_mem_cons.1 h
    rw [List.flatMap_cons, List.append_assoc, List.singleton_append,
      List.splitOn_append_cons_self_of_not_mem hline, ih hls, List.cons_append]

/-- **The bytes are read back from the text.**  No line holds a line feed, so the text is cut into
the lines it was made of. -/
theorem readBack_text (bytes : List UInt8) : readBack (text bytes) = .ok bytes := by
  have hrows : ((List.range (rowCount bytes.length)).map fun i =>
      Hex.padded 8 (16 * i) ++ ' ' :: spread 0 ((chunk bytes i).map Hex.byte)).mapM readRow
        = .ok ((List.range (rowCount bytes.length)).map (chunk bytes)) := by
    simp only [Command.mapM_eq_ok_iff, List.forall₂_map_left_iff, List.forall₂_map_right_iff,
      List.forall₂_same]
    exact fun i _ => readRow_spread (16 * i) (chunk bytes i)
  rw [readBack, text, splitOn_ended (newline_not_mem_lines bytes), List.dropLast_concat, lines_eq,
    List.dropLast_concat, hrows]
  exact congrArg _ (flatMap_chunk bytes)

/-- Lines are printed one after the other, and nothing else happens.  Printing cannot fail, and does
not touch the state. -/
theorem run_printAll {σ ε : Type} (ls : List (List Char)) (s : σ) :
    (Command.printAll ls : Action σ Command.Output ε Unit).run s
      = ⟨.ok (), s, ls.map fun line => .report (.line (String.ofList line))⟩ := by
  induction ls with
  | nil => rfl
  | cons line ls ih =>
    have hline : (Command.printChars line : Action σ Command.Output ε Unit).run s
        = ⟨.ok (), s, [.report (.line (String.ofList line))]⟩ := rfl
    rw [Command.printAll, Action.run_bind_of_ok hline, ih]
    rfl

theorem reports_printAll {σ ε : Type} (ls : List (List Char)) (s : σ) :
    ((Command.printAll ls : Action σ Command.Output ε Unit).run s).reports
      = ls.map fun line => .line (String.ofList line) := by
  rw [run_printAll, Outcome.reports, List.filterMap_map]
  exact congrFun List.filterMap_eq_map ls

/-- **A dump loses nothing.**  Its lines are those that are printed.  There is one for each sixteen
bytes begun, with the offset of the first of them in eight digits and behind it these bytes in two
digits each, spread over the line; and at the end one with their number, in eight digits too.  A
pass over the bytes, which decides at each of them what goes around it, writes the same text.  From
the text the bytes are read back, so that no two lists of bytes have the same dump. -/
theorem dump_loses_nothing :
    (∀ bytes : List UInt8,
      (∃ rows last, lines bytes = rows ++ [last] ∧
        List.Forall₂ (fun i line => IsRow (16 * i) ((bytes.drop (16 * i)).take 16) line)
          (List.range ((bytes.length + 15) / 16)) rows ∧
        Numeral.Shows 16 8 last bytes.length) ∧
      (∀ (σ ε : Type) (s : σ),
        ((Command.printAll (lines bytes) : Action σ Command.Output ε Unit).run s).reports
          = (lines bytes).map fun line => .line (String.ofList line)) ∧
      text bytes = pass bytes ∧
      readBack (text bytes) = .ok bytes) ∧
    Function.Injective text := by
  refine ⟨fun bytes => ⟨?_, fun _ _ => reports_printAll _, text_eq_pass bytes,
    readBack_text bytes⟩, fun first second h => ?_⟩
  · exact ⟨rows 0 bytes, _, rfl, isRow_rows bytes, shows_padded (by decide) bytes.length⟩
  · have hboth : Except.ok first = Except.ok second :=
      (readBack_text first).symm.trans (h ▸ readBack_text second)
    exact Except.ok.inj hboth

end SerialEeprom.Text.Hexdump
