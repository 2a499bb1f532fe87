/-
# How pins are written

`Pin.parse` makes seven checks one after the other.  Together they accept one form: a letter or
none, and behind it, in at most four bytes, two numerals with one dot between them, of a port and
of a pin that exist (`Pin.Written`).

The form says nothing of the order of the checks, and leaves room where the reader does.  A numeral
may have a plus sign or zeros in front, as long as the four bytes suffice; the length is counted in
bytes, which makes a difference only for texts that are refused anyway, since everything that is
accepted is plain ASCII.  A letter in front that is no part of the form is taken for the start of a
numeral, and refused as such.

The dots are what needs a proof.  A text is cut into one part more than it has dots
(`length_splitOn`), so two parts mean one dot, and neither part has another.  All other checks are
those of a numeral, and of its bound.  The bound of a byte that is applied to each part when it is
read is weaker than the one that follows, and disappears.

Main statement: a text is read as a pin exactly if it has that form, and the printed form of any
pin that was read has it too (`parse_reads_written`).
-/
import SerialEeprom.Pin
import SerialEeprom.Proofs.Numerals

namespace SerialEeprom.Pin

open SerialEeprom.Text

variable {source : String} {body port number : List Char} {p : Pin}

/-! ## 1. The form

From the outside in: the letter, the dot, the numerals. -/

/-- What is left of a text without the letter that may stand in front of it.  If there are two
letters, one is left. -/
def Unlettered (source body : List Char) : Prop :=
  source = 'P' :: body ∨ source = 'p' :: body ∨
    (source = body ∧ ∀ rest, body ≠ 'P' :: rest ∧ body ≠ 'p' :: rest)

/-- The numerals of a port and of a pin on it, both of which exist.  They may have a sign and zeros
in front. -/
def Parts (port number : List Char) (p : Pin) : Prop :=
  Numeral.Spells 10 port p.port.toNat ∧ p.port.toNat < 2 ∧
    Numeral.Spells 10 number p.number.toNat ∧ p.number.toNat < 32

/-- At most four bytes in UTF-8, with one dot, between the two numerals.  The bytes are counted
behind the letter, so a letter costs nothing. -/
def Dotted (body : List Char) (p : Pin) : Prop :=
  (String.ofList body).utf8ByteSize ≤ 4 ∧ body.count '.' = 1 ∧
    ∃ port number, body = port ++ '.' :: number ∧ Parts port number p

/-- **The written form of a pin**: a letter or none, and behind it the two numerals with their dot.
This is what other modules mean by a text that is written as a pin. -/
def Written (source : String) (p : Pin) : Prop :=
  ∃ body, Unlettered source.toList body ∧ Dotted body p

theorem unlettered_iff {source : List Char} :
    Unlettered source body ↔ body = dropLetter source := by
  unfold Unlettered dropLetter
  split
  · rename_i rest
    constructor
    · rintro (h | h | ⟨rfl, h⟩)
      · exact (List.cons.inj h).2.symm
      · cases h
      · exact absurd rfl (h rest).1
    · rintro rfl
      exact .inl rfl
  · rename_i rest
    constructor
    · rintro (h | h | ⟨rfl, h⟩)
      · cases h
      · exact (List.cons.inj h).2.symm
      · exact absurd rfl (h rest).2
    · rintro rfl
      exact .inr (.inl rfl)
  · rename_i hupper hlower
    constructor
    · rintro (h | h | ⟨h, -⟩)
      · exact absurd h (hupper body)
      · exact absurd h (hlower body)
      · exact h.symm
    · rintro rfl
      exact .inr (.inr ⟨rfl, fun rest => ⟨hupper rest, hlower rest⟩⟩)

theorem byteLength_eq (cs : List Char) : byteLength cs = (String.ofList cs).utf8ByteSize := by
  induction cs with
  | nil => rfl
  | cons c cs ih =>
    rw [byteLength, ih, String.ofList_cons, String.utf8ByteSize_append,
      String.utf8ByteSize_singleton]

/-! ## 2. The dot

Being cut into two parts, as a property of the text. -/

theorem length_splitOn (a : Char) (cs : List Char) : (cs.splitOn a).length = cs.count a + 1 := by
  induction cs with
  | nil => rfl
  | cons c cs ih =>
    rw [List.splitOn_cons_eq_if_modifyHead, List.count_cons]
    split
    next => rw [List.length_cons, ih]
    next => rw [List.length_modifyHead, ih]

theorem splitOn_eq_pair_iff {a : Char} {cs front back : List Char} :
    cs.splitOn a = [front, back] ↔ cs.count a = 1 ∧ cs = front ++ a :: back := by
  constructor
  · intro h
    have hcount := length_splitOn a cs
    have hjoin : [a].intercalate (cs.splitOn a) = cs := List.intercalate_splitOn a
    rw [h] at hcount hjoin
    refine ⟨(Nat.succ.inj hcount).symm, hjoin.symm.trans ?_⟩
    rw [List.intercalate_cons_cons, List.intercalate_singleton, List.append_assoc]
    rfl
  · rintro ⟨hcount, rfl⟩
    rw [List.count_append, List.count_cons_self] at hcount
    have hfront : a ∉ front := List.count_eq_zero.1 (by omega)
    have hback : a ∉ back := List.count_eq_zero.1 (by omega)
    rw [List.splitOn_append_cons_self_of_not_mem hfront, List.splitOn_eq_singleton hback]

/-! ## 3. The numerals -/

theorem parsePart_eq_ok_iff {fault : String → Numeral.Fault → ParseError} {part : List Char}
    {n : Nat} : parsePart fault part = .ok n ↔ Numeral.Spells 10 part n ∧ n < 256 := by
  rw [← Numeral.read_eq_ok_iff (by decide) (by decide), parsePart]
  rcases Numeral.read 10 256 part with cause | m
  · exact iff_of_false (by intro h; cases h) (by intro h; cases h)
  · simp only [Except.mapError, Except.ok.injEq]

theorem ofParts_eq_ok_iff : ofParts port number = .ok p ↔ Parts port number p := by
  constructor
  · intro h
    unfold ofParts at h
    rcases hp : parsePart .badPort port with cause | m
    · rw [hp] at h
      cases h
    · rcases hn : parsePart .badNumber number with cause | n
      · rw [hp, hn] at h
        cases h
      · obtain ⟨hport, hmbyte⟩ := parsePart_eq_ok_iff.1 hp
        obtain ⟨hnumber, hnbyte⟩ := parsePart_eq_ok_iff.1 hn
        simp only [hp, hn, bind, Except.bind] at h
        split at h
        next => cases h
        next hm =>
          split at h
          next => cases h
          next hn =>
            obtain rfl := Except.ok.inj h
            simp only [Parts, UInt8.toNat_ofNat', Nat.mod_eq_of_lt hmbyte, Nat.mod_eq_of_lt hnbyte]
            exact ⟨hport, Nat.lt_of_not_le hm, hnumber, Nat.lt_of_not_le hn⟩
  · rintro ⟨hport, hm, hnumber, hn⟩
    have hp : parsePart .badPort port = .ok p.port.toNat :=
      parsePart_eq_ok_iff.2 ⟨hport, p.port.toNat_lt⟩
    have hq : parsePart .badNumber number = .ok p.number.toNat :=
      parsePart_eq_ok_iff.2 ⟨hnumber, p.number.toNat_lt⟩
    have hm : ¬ portCount ≤ p.port.toNat := Nat.not_le.2 hm
    have hn : ¬ pinsPerPort ≤ p.number.toNat := Nat.not_le.2 hn
    simp only [ofParts, hp, hq, bind, Except.bind, if_neg hm, if_neg hn, UInt8.ofNat_toNat]
    rfl

/-! ## 4. The whole -/

/-- **A text is read as a pin exactly if it has the form.**  The checks of the reader are taken one
by one, and each is a part of the form. -/
theorem parse_eq_ok_iff : parse source = .ok p ↔ Written source p := by
  simp only [Written, unlettered_iff, exists_eq_left]
  constructor
  · intro h
    unfold parse at h
    dsimp only at h
    split at h
    · cases h
    · rename_i hlength
      rw [byteLength_eq, Nat.not_lt] at hlength
      split at h
      · rename_i port number hsplit
        split at h
        · cases h
        · obtain ⟨hcount, hbody⟩ := splitOn_eq_pair_iff.1 hsplit
          exact ⟨hlength, hcount, port, number, hbody, ofParts_eq_ok_iff.1 h⟩
      · cases h
      · cases h
  · rintro ⟨hlength, hcount, port, number, hbody, hparts⟩
    have hlength : ¬ 4 < byteLength (dropLetter source.toList) := by
      rwa [byteLength_eq, Nat.not_lt]
    -- A numeral has a digit, so a part that is one is not empty.
    have hne : ¬ (port = [] ∨ number = []) := not_or.2 ⟨hparts.1.ne_nil, hparts.2.2.1.ne_nil⟩
    simp only [parse, if_neg hlength, splitOn_eq_pair_iff.2 ⟨hcount, hbody⟩, if_neg hne]
    exact ofParts_eq_ok_iff.2 hparts

theorem toList_text (p : Pin) :
    p.text.toList = 'P' :: (Nat.toDigits 10 p.port.toNat
      ++ '.' :: (Nat.toDigits 10 p.number.toNat).leftpad 2 '0') := by
  have hletter : "P".toList = ['P'] := rfl
  have hdot : ".".toList = ['.'] := rfl
  simp only [text, toString, String.toList_append, String.toList_ofList, Nat.toList_repr, hletter,
    hdot, List.append_assoc, List.cons_append, List.nil_append]

/-- **The printed form of a pin that exists is read as the same pin.**  It has a letter, one digit,
a dot and two digits, which are four bytes behind the letter. -/
theorem parse_text (hport : p.port.toNat < 2) (hnumber : p.number.toNat < 32) :
    parse p.text = .ok p := by
  have hdigit : ∀ d < 10, (Nat.digitChar d).utf8Size = 1 ∧ Nat.digitChar d ≠ '.' := by decide
  obtain ⟨hport₁, hport₂⟩ := hdigit p.port.toNat (by omega)
  obtain ⟨hhigh₁, hhigh₂⟩ := hdigit (p.number.toNat / 10) (by omega)
  obtain ⟨hlow₁, hlow₂⟩ := hdigit (p.number.toNat % 10) (by omega)
  have hfirst : Nat.toDigits 10 p.port.toNat = [Nat.digitChar p.port.toNat] :=
    Nat.toDigits_of_lt_base (by omega)
  have hlast : (Nat.toDigits 10 p.number.toNat).leftpad 2 '0'
      = [Nat.digitChar (p.number.toNat / 10), Nat.digitChar (p.number.toNat % 10)] :=
    Numeral.leftpad_two (by decide) (by omega)
  refine parse_eq_ok_iff.2 ⟨_, .inl (toList_text p), ?_, ?_, _, _, rfl, ?_, hport, ?_, hnumber⟩
  · rw [← byteLength_eq, hfirst, hlast]
    simp only [List.singleton_append, byteLength, hport₁, hhigh₁, hlow₁]
    decide
  · rw [hfirst, hlast]
    simp only [List.singleton_append, List.count_cons_of_ne hport₂, List.count_cons_self,
      List.count_cons_of_ne hhigh₂, List.count_cons_of_ne hlow₂, List.count_nil]
  · exact Numeral.spells_toDigits (by decide) (by decide) _
  · exact Numeral.spells_leftpad (by decide) (by decide) 2 _

/-- **A text is read as a pin exactly if it is written as one**: a letter or none, then two
numerals with a dot between them that take at most four bytes, of a port and of a pin that exist.
And whatever was read is printed in that form again. -/
theorem parse_reads_written :
    (∀ (source : String) (p : Pin),
        parse source = .ok p ↔ ∃ body, Unlettered source.toList body ∧ Dotted body p) ∧
      ∀ (source : String) (p : Pin), parse source = .ok p → parse p.text = .ok p := by
  refine ⟨fun _ _ => parse_eq_ok_iff, fun source p h => ?_⟩
  obtain ⟨body, -, -, -, port, number, -, -, hport, -, hnumber⟩ := parse_eq_ok_iff.1 h
  exact parse_text hport hnumber

/-- A plus sign takes one of the four bytes, and is not printed. -/
theorem parse_reads_written_with_sign :
    parse "p+1.9" = .ok ⟨1, 9⟩ ∧ parse (Pin.text ⟨1, 9⟩) = .ok ⟨1, 9⟩ := by
  have hread : parse "p+1.9" = .ok ⟨1, 9⟩ := by
    rfl
  exact ⟨hread, parse_reads_written.2 "p+1.9" ⟨1, 9⟩ hread⟩

end SerialEeprom.Pin
