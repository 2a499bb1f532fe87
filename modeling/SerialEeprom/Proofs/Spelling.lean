/-
# How arguments are spelled

A number has many spellings: decimal or behind `0x` in either case, with a plus sign or without,
with as many zeros in front as one likes.  None of them has a blank in it.  So whatever is read as
a number is one word, and what stands behind it on a line are the words of the rest (`parse_line`).

That is all that lines need to know of spellings.  A line is put together from a name, the text of
an address and a rest, with blanks between them; it is cut into words again, and the name and the
text of the address come out whole, whatever the text is.  For names it is asked that they are words
too, and do not start a comment, which can be checked for each name by looking at it
(`Instruction.canName`).

The instructions that take an address come in two shapes, those that take bytes behind it and those
that take a length.  For each shape there is one lemma, with the name and the constructor as
parameters (`parse_data`, `parse_length`).

A byte has one spelling when it is printed, two digits, and that is read as the same byte, without
the mark of a hexadecimal number that a number would need.  No two digits are such a mark, since its
letter is no digit (`digitChar_ne`).

Main statements: bytes as they are printed are read as the same bytes (`bytes_spaced`), and lines
that store or fetch, from inside or over the bus, are read as what they spell.
-/
import SerialEeprom.Command.Session

namespace SerialEeprom

namespace Text

/-! ## 1. Numerals

Words, as they have no blank in them. -/

theorem isBlank_of_numeral {base : Nat} {c : Char} (h : c = '+' ∨ (Numeral.digit? base c).isSome) :
    isBlank c = false := by
  have hrange : 43 ≤ c.toNat ∧ c.toNat ≤ 102 := by
    rcases h with rfl | h
    · decide
    · obtain ⟨hlow, hhigh⟩ := Numeral.toNat_of_isSome_digit h
      exact ⟨by omega, hhigh⟩
  simp only [isBlank, Bool.or_eq_false_iff, Bool.and_eq_false_iff, decide_eq_false_iff_not,
    beq_eq_false_iff_ne]
  omega

/-- Whatever is read as a number is a word.  It has a character, and none that is blank. -/
theorem isWord_of_read {base limit n : Nat} {cs : List Char}
    (h : Numeral.read base limit cs = .ok n) : IsWord cs := by
  obtain ⟨hne, hall⟩ := Numeral.of_read_ok h
  exact ⟨hne, fun c hc => isBlank_of_numeral (hall c hc)⟩

namespace Hex

/-- A digit is neither a sign nor the mark of a hexadecimal number.  So digits that are printed are
read as digits and as nothing else. -/
theorem digitChar_ne : ∀ n < 16,
    Nat.digitChar n ≠ '+' ∧ Nat.digitChar n ≠ 'x' ∧ Nat.digitChar n ≠ 'X' := by decide

theorem read_byte (b : UInt8) : Numeral.read 16 256 (byte b) = .ok b.toNat := by
  have hb := b.toNat_lt
  have hhigh : b.toNat / 16 < 16 := by omega
  have hlow : b.toNat % 16 < 16 := Nat.mod_lt _ (by decide)
  have hsum : (0 * 16 + b.toNat / 16) * 16 + b.toNat % 16 = b.toNat := by omega
  have hplus := (digitChar_ne _ hhigh).1
  rw [byte, Numeral.read]
  · simp only [Numeral.extend, Numeral.digit?_digitChar _ hhigh, Numeral.digit?_digitChar _ hlow,
      hsum]
    rw [if_pos (by omega), if_pos (by omega)]
  · intro h
    cases h
  · intro h
    exact hplus (List.cons.inj h).1
  · intro digits h
    exact hplus (List.cons.inj h).1

theorem words_spaced (data : List UInt8) : words (spaced data) = data.map byte := by
  refine words_intercalate rfl fun w hw => ?_
  obtain ⟨b, -, rfl⟩ := List.mem_map.1 hw
  exact isWord_of_read (read_byte b)

end Hex

end Text

namespace Command

open SerialEeprom.Text

/-! ## 2. Arguments -/

theorem eq_of_hexDigits {cs digits : List Char} (h : hexDigits? cs = some digits) :
    ∃ mark, isBlank mark = false ∧ cs = '0' :: mark :: digits := by
  unfold hexDigits? at h
  split at h
  · exact ⟨'x', rfl, congrArg _ (congrArg _ (Option.some.inj h))⟩
  · exact ⟨'X', rfl, congrArg _ (congrArg _ (Option.some.inj h))⟩
  · cases h

/-- **Every spelling of a number is a word.**  Behind a mark are digits, and the mark itself is no
blank. -/
theorem isWord_of_number {source : String} {n : UInt32} (h : number source = .ok n) :
    IsWord source.toList := by
  unfold number at h
  rcases hd : hexDigits? source.toList with _ | digits
  · rcases hr : Numeral.read 10 0x100000000 source.toList with cause | value
    · simp only [hd, hr] at h
      cases h
    · exact isWord_of_read hr
  · rcases hr : Numeral.read 16 0x100000000 digits with cause | value
    · simp only [hd, hr] at h
      cases h
    · obtain ⟨mark, hmark, hsource⟩ := eq_of_hexDigits hd
      have hrest : ∀ c ∈ mark :: digits, isBlank c = false :=
        List.forall_mem_cons.2 ⟨hmark, (isWord_of_read hr).not_blank⟩
      rw [hsource]
      exact ⟨List.cons_ne_nil _ _, List.forall_mem_cons.2 ⟨rfl, hrest⟩⟩

/-- What spells a number below `2 ^ 16` spells the same number where a larger one is allowed. -/
theorem number_of_number16 {source : String} {n : UInt16} (h : number16 source = .ok n) :
    ∃ m : UInt32, number source = .ok m ∧ m.toNat = n.toNat := by
  unfold number16 at h
  rcases hn : number source with cause | m
  · rw [hn] at h
    cases h
  · rw [hn] at h
    refine ⟨m, rfl, ?_⟩
    by_cases hm : m ≤ 0xffff
    · have hword : Except.ok m.toUInt16 = Except.ok n := (if_pos hm).symm.trans h
      have hm : m.toNat ≤ 65535 := UInt32.le_iff_toNat_le.1 hm
      rw [← Except.ok.inj hword, UInt32.toNat_toUInt16, Nat.mod_eq_of_lt (by omega)]
    · have hwide : Except.error (ArgumentError.wide source) = Except.ok n :=
        (if_neg hm).symm.trans h
      cases hwide

theorem byte_hex (b : UInt8) : byte (Hex.byte b) = .ok b := by
  obtain ⟨-, hx, hX⟩ := Hex.digitChar_ne (b.toNat % 16) (Nat.mod_lt _ (by decide))
  have hnone : hexDigits? (Hex.byte b) = none := by
    rw [Hex.byte, hexDigits?]
    · intro digits h
      exact hx (List.cons.inj (List.cons.inj h).2).1
    · intro digits h
      exact hX (List.cons.inj (List.cons.inj h).2).1
  simp only [byte, hnone, Option.getD_none, Hex.read_byte, UInt8.ofNat_toNat]

/-- **Bytes as they are printed are read as the same bytes.**  They are cut at their spaces, and
each word is one byte. -/
theorem bytes_spaced (data : List UInt8) : bytes (words (Hex.spaced data)) = .ok data := by
  have hbyte : byte ∘ Hex.byte = pure := funext byte_hex
  rw [Hex.words_spaced, bytes, List.mapM_map, hbyte, List.mapM_pure, List.map_id']
  rfl

/-! ## 3. Lines

The shapes, and then the four instructions that have them. -/

namespace Instruction

variable {first rest : String} {address : UInt16} {data : List UInt8}

/-- An instruction may have this name: it is a word, and no comment.  Closed names are checked by
computing this. -/
def canName (name : List Char) : Bool :=
  name.head? != some '#' && !name.isEmpty && name.all fun c => !isBlank c

theorem isWord_of_canName {name : List Char} (h : canName name = true) :
    IsWord name ∧ ∀ cs, name ≠ '#' :: cs := by
  simp only [canName, Bool.and_eq_true, bne_iff_ne, Bool.not_eq_true', List.isEmpty_eq_false_iff,
    List.all_eq_true] at h
  obtain ⟨⟨hmark, hne⟩, hall⟩ := h
  refine ⟨⟨hne, hall⟩, ?_⟩
  rintro cs rfl
  exact hmark rfl

/-- A line is read by its words.  How they were spaced is forgotten. -/
theorem parse_of_words {line : String} {name : List Char} {arguments : List (List Char)}
    (hwords : words line.toList = name :: arguments) (hname : ∀ cs, name ≠ '#' :: cs) :
    parse line = some <$> ofWords (String.ofList name) arguments := by
  unfold parse
  split
  · rename_i h
    cases hwords.symm.trans h
  · rename_i cs more h
    exact absurd (List.cons.inj (hwords.symm.trans h)).1 (hname cs)
  · rename_i h
    obtain ⟨rfl, rfl⟩ := List.cons.inj (hwords.symm.trans h)
    rfl

/-- A line of a name, a number, and whatever follows them.  The number is passed on as it was
spelled. -/
theorem parse_line (name : String) (hname : canName name.toList = true)
    (ha : number16 first = .ok address) :
    parse (name ++ " " ++ first ++ " " ++ rest)
      = some <$> ofWords name (first.toList :: words rest.toList) := by
  obtain ⟨hword, hmark⟩ := isWord_of_canName hname
  obtain ⟨n, hn, -⟩ := number_of_number16 ha
  have hspace : " ".toList = [' '] := rfl
  have hwords : words (name ++ " " ++ first ++ " " ++ rest).toList
      = name.toList :: first.toList :: words rest.toList := by
    simp only [String.toList_append, hspace, List.append_assoc, List.cons_append, List.nil_append]
    rw [hword.words_append rfl, (isWord_of_number hn).words_append rfl]
  rw [parse_of_words hwords hmark, String.ofList_toList]

theorem next_of_ok {α : Type} {token : String} {read : String → Except ArgumentError α} {value : α}
    (h : read token = .ok value) (name argument : String) (others : List (List Char)) :
    next name argument read (token.toList :: others) = .ok (value, others) := by
  rw [next, String.ofList_toList, h]

theorem payload_of_ok {tokens : List (List Char)} (h : bytes tokens = .ok data) :
    payload tokens = .ok data := by
  rw [payload, h]
  rfl

section Shapes

variable (name : String) (hname : canName name.toList = true) (ha : number16 first = .ok address)

include hname ha

/-- A line of an instruction that takes an address and bytes. -/
theorem parse_data {make : UInt16 → List UInt8 → Instruction}
    (hshape : ∀ arguments, ofWords name arguments = do
      let (address, others) ← next name "address" number16 arguments
      make address <$> payload others)
    (hd : bytes (words rest.toList) = .ok data) :
    parse (name ++ " " ++ first ++ " " ++ rest) = .ok (some (make address data)) := by
  have hpayload := payload_of_ok hd
  rw [parse_line name hname ha, hshape, next_of_ok ha]
  simp only [bind, Except.bind, hpayload]
  rfl

/-- A line of an instruction that takes an address and a length. -/
theorem parse_length {α : Type} {read : String → Except ArgumentError α} {length : α}
    {make : UInt16 → α → Instruction}
    (hshape : ∀ arguments, ofWords name arguments = do
      let (address, others) ← next name "address" number16 arguments
      let (length, _) ← next name "length" read others
      pure (make address length))
    (hrest : IsWord rest.toList) (hl : read rest = .ok length) :
    parse (name ++ " " ++ first ++ " " ++ rest) = .ok (some (make address length)) := by
  have hlength := next_of_ok hl name "length" []
  rw [parse_line name hname ha, hrest.words_eq, hshape, next_of_ok ha]
  simp only [bind, Except.bind, hlength]
  rfl

end Shapes

theorem parse_store (ha : number16 first = .ok address)
    (hd : bytes (words rest.toList) = .ok data) :
    parse ("store " ++ first ++ " " ++ rest) = .ok (some (.store address data)) :=
  parse_data "store" rfl ha (fun _ => rfl) hd

theorem parse_put (ha : number16 first = .ok address) (hd : bytes (words rest.toList) = .ok data) :
    parse ("put " ++ first ++ " " ++ rest) = .ok (some (.put address data)) :=
  parse_data "put" rfl ha (fun _ => rfl) hd

theorem parse_fetch {length : UInt16} (ha : number16 first = .ok address)
    (hl : number16 rest = .ok length) :
    parse ("fetch " ++ first ++ " " ++ rest) = .ok (some (.fetch address length)) := by
  obtain ⟨n, hn, -⟩ := number_of_number16 hl
  exact parse_length "fetch" rfl ha (fun _ => rfl) (isWord_of_number hn) hl

theorem parse_get {length : UInt32} (ha : number16 first = .ok address)
    (hl : number rest = .ok length) :
    parse ("get " ++ first ++ " " ++ rest) = .ok (some (.get address length)) :=
  parse_length "get" rfl ha (fun _ => rfl) (isWord_of_number hl) hl

end Instruction

end Command

end SerialEeprom
