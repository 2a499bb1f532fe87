/-
# What numerals spell

`Numeral.read` goes through a numeral from the left, and stops when the number so far reaches the
limit.  Here is what a numeral spells, said without a limit and without an order of reading: a plus
sign or none, then at least one digit, which together have their value in the positional system
(`Digit`, `HasValue`, `Spells`).

The early stop is harmless because a further digit never makes a number smaller (`le_foldl`): a
number that has reached the limit cannot come back below it.  So reading is exact in both
directions, and says why it refuses:

* a number is read exactly if it is spelled and below the limit, however many zeros stand in front
  (`read_eq_ok_iff`);
* one that is spelled but not below the limit is refused for just that (`read_eq_tooLarge`);
* a text spells one number at most (`Spells.unique`), so nothing is ever taken for another number.

Printing has no such freedom.  A printed number has no sign and no capital, and as many zeros in
front as the width of its column asks for (`Shows`).  That fixes its text to the last character
(`shows_iff`), so a statement about a column needs no formatter to be said; and what is printed is
among what is read (`spells_toDigits`, `spells_leftpad`).

The three predicates are the vocabulary in which the modules on pins, arguments, dumps and log
messages say what a text means.
-/
import SerialEeprom.Text.Numeral
import Mathlib.Data.List.Forall2
import Mathlib.Data.Nat.Digits.Defs

namespace SerialEeprom.Text.Numeral

variable {base limit value n d : Nat} {c : Char} {cs : List Char} {values : List Nat}

/-! ## 1. Digits -/

/-- The character is a digit of the base with this value: `0` to `9`, and letters in either case
from ten on. -/
def Digit (base : Nat) (c : Char) (d : Nat) : Prop :=
  d < base ∧
    (d < 10 ∧ c.toNat = '0'.toNat + d ∨
      10 ≤ d ∧ d < 16 ∧ (c.toNat = 'a'.toNat + (d - 10) ∨ c.toNat = 'A'.toNat + (d - 10)))

theorem digit?_eq_some_iff : digit? base c = some d ↔ Digit base c d := by
  have hle : ∀ a b : Char, a ≤ b ↔ a.toNat ≤ b.toNat := fun _ _ => Iff.rfl
  simp only [digit?, Digit, Option.filter_eq_some_iff, decide_eq_true_eq, hle, Char.reduceToNat]
  split
  next => simp only [Option.some.injEq]; omega
  next =>
    split
    next => simp only [Option.some.injEq]; omega
    next =>
      split
      next => simp only [Option.some.injEq]; omega
      next => simp only [reduceCtorEq, false_and, false_iff]; omega

theorem digit_ne_plus (h : Digit base c d) : c ≠ '+' := by
  rintro rfl
  simp only [Digit, Char.reduceToNat] at h
  omega

/-- No character is two digits.  The three ranges of characters do not meet. -/
theorem digit_rightUnique : Relator.RightUnique (Digit base) := fun _ _ _ hd he =>
  Option.some.inj ((digit?_eq_some_iff.2 hd).symm.trans (digit?_eq_some_iff.2 he))

theorem digit_digitChar (hd : d < base) (hbase : base ≤ 16) : Digit base (Nat.digitChar d) d :=
  ⟨hd, (digit?_eq_some_iff.1 (digit?_digitChar d (Nat.lt_of_lt_of_le hd hbase))).2⟩

/-! ## 2. Digits together -/

/-- Digits one after the other have this value in the positional system.  No digits at all have the
value nought, which is why numerals ask for one. -/
def HasValue (base : Nat) (cs : List Char) (n : Nat) : Prop :=
  ∃ values, List.Forall₂ (Digit base) cs values ∧ n = Nat.ofDigits base values.reverse

theorem ofDigits_reverse_eq_foldl (base : Nat) (values : List Nat) :
    Nat.ofDigits base values.reverse = values.foldl (fun v d => v * base + d) 0 := by
  rw [Nat.ofDigits_eq_foldr, List.foldr_reverse]
  congr 1
  funext v d
  exact (Nat.add_comm d _).trans (congrArg (· + d) (Nat.mul_comm base v))

/-- Digits behind a number make it no smaller.  So a limit that was reached stays reached. -/
theorem le_foldl (hbase : 0 < base) : ∀ (values : List Nat) (value : Nat),
    value ≤ values.foldl (fun v d => v * base + d) value
  | [], value => Nat.le_refl value
  | d :: values, value =>
    calc value ≤ value * base := Nat.le_mul_of_pos_right value hbase
      _ ≤ value * base + d := Nat.le_add_right ..
      _ ≤ (d :: values).foldl (fun v d => v * base + d) value := le_foldl hbase values _

/-- Reading goes on behind `value` exactly if the digits are such and the whole stays below the
limit. -/
theorem extend_eq_ok_iff (hbase : 0 < base) (hv : value < limit) :
    extend base limit value cs = .ok n ↔
      ∃ values, List.Forall₂ (Digit base) cs values ∧
        n = values.foldl (fun v d => v * base + d) value ∧ n < limit := by
  induction cs generalizing value with
  | nil =>
    simp only [extend, Except.ok.injEq, List.forall₂_nil_left_iff]
    constructor
    · rintro rfl
      exact ⟨[], rfl, rfl, hv⟩
    · rintro ⟨values, rfl, h, -⟩
      exact h.symm
  | cons c cs ih =>
    simp only [List.forall₂_cons_left_iff]
    rcases hd : digit? base c with _ | d
    · simp only [extend, hd]
      constructor
      · intro h; cases h
      · rintro ⟨_, ⟨d, values, hdigit, -, rfl⟩, -⟩
        rw [digit?_eq_some_iff.2 hdigit] at hd
        cases hd
    · have hdigit := digit?_eq_some_iff.1 hd
      have hunique : ∀ {e}, Digit base c e → e = d := fun he =>
        Option.some.inj ((digit?_eq_some_iff.2 he).symm.trans hd)
      by_cases hlt : value * base + d < limit
      · simp only [extend, hd, if_pos hlt, ih hlt]
        constructor
        · rintro ⟨values, hall, hn, hlimit⟩
          exact ⟨d :: values, ⟨d, values, hdigit, hall, rfl⟩, hn, hlimit⟩
        · rintro ⟨_, ⟨e, values, he, hall, rfl⟩, hn, hlimit⟩
          obtain rfl := hunique he
          exact ⟨values, hall, hn, hlimit⟩
      · -- The number has reached the limit, and stays there whatever comes.
        simp only [extend, hd, if_neg hlt]
        constructor
        · intro h; cases h
        · rintro ⟨_, ⟨e, values, he, -, rfl⟩, rfl, hlimit⟩
          obtain rfl := hunique he
          exact absurd (Nat.lt_of_le_of_lt (le_foldl hbase values _) hlimit) hlt

theorem extend_zero_eq_ok_iff (hbase : 0 < base) (hlimit : 0 < limit) :
    extend base limit 0 cs = .ok n ↔ HasValue base cs n ∧ n < limit := by
  simp only [extend_eq_ok_iff hbase hlimit, HasValue, ofDigits_reverse_eq_foldl, ← and_assoc,
    exists_and_right]

/-- Digits whose value reaches the limit are found too large, be it before the last of them.  They
must all be digits, or another fault might be found first. -/
theorem extend_eq_tooLarge (hv : value < limit) (hall : List.Forall₂ (Digit base) cs values)
    (hlarge : limit ≤ values.foldl (fun v d => v * base + d) value) :
    extend base limit value cs = .error .tooLarge := by
  induction hall generalizing value with
  | nil => exact absurd hv (Nat.not_lt.2 hlarge)
  | cons hd _ ih =>
    simp only [extend, digit?_eq_some_iff.2 hd]
    split
    next hlt => exact ih hlt hlarge
    next => rfl

theorem HasValue.unique {m : Nat} (h : HasValue base cs n) (h' : HasValue base cs m) : n = m := by
  obtain ⟨values, hall, rfl⟩ := h
  obtain ⟨others, hothers, rfl⟩ := h'
  rw [digit_rightUnique.forall₂ hall hothers]

theorem HasValue.cons_inv (h : HasValue base (c :: cs) n) : ∃ d, Digit base c d := by
  obtain ⟨values, hall, -⟩ := h
  obtain ⟨d, -, hd, -⟩ := List.forall₂_cons_left_iff.1 hall
  exact ⟨d, hd⟩

theorem HasValue.concat (h : HasValue base cs n) (hd : Digit base c d) :
    HasValue base (cs ++ [c]) (base * n + d) := by
  obtain ⟨values, hall, rfl⟩ := h
  refine ⟨values ++ [d], List.rel_append hall (.cons hd .nil), ?_⟩
  rw [List.reverse_append, List.reverse_singleton, List.singleton_append, Nat.ofDigits_cons]
  exact Nat.add_comm ..

theorem HasValue.zero_cons (h : HasValue base cs n) (hbase : 0 < base) :
    HasValue base ('0' :: cs) n := by
  obtain ⟨values, hall, rfl⟩ := h
  have hzero : Digit base '0' 0 := ⟨hbase, .inl ⟨by decide, rfl⟩⟩
  exact ⟨0 :: values, .cons hzero hall, (Nat.ofDigits_reverse_zero_cons values).symm⟩

theorem hasValue_toDigits (hone : 1 < base) (hbase : base ≤ 16) (n : Nat) :
    HasValue base (Nat.toDigits base n) n := by
  induction n using Nat.strong_induction_on with
  | _ n ih =>
    rw [Nat.toDigits_eq_if hone]
    split
    next hlt =>
      have hdigit := digit_digitChar hlt hbase
      exact ⟨[n], .cons hdigit .nil, Nat.ofDigits_singleton.symm⟩
    next hge =>
      have hless : n / base < n := Nat.div_lt_self (by omega) hone
      have hdigit := digit_digitChar (Nat.mod_lt n (by omega)) hbase
      have hboth := (ih _ hless).concat hdigit
      rwa [Nat.div_add_mod] at hboth

/-! ## 3. Numerals -/

/-- The text is a numeral of this number: a plus sign or none, and at least one digit.  Zeros in
front are digits like others. -/
def Spells (base : Nat) (cs : List Char) (n : Nat) : Prop :=
  ∃ digits : List Char, (cs = digits ∨ cs = '+' :: digits) ∧ digits ≠ [] ∧ HasValue base digits n

theorem Spells.ne_nil (h : Spells base cs n) : cs ≠ [] := by
  obtain ⟨digits, rfl | rfl, hne, -⟩ := h
  · exact hne
  · exact List.cons_ne_nil _ _

theorem not_hasValue_plus {rest : List Char} : ¬ HasValue base ('+' :: rest) n := by
  intro h
  obtain ⟨d, hd⟩ := h.cons_inv
  exact digit_ne_plus hd rfl

/-- A text is a numeral of one number at most.  A plus sign is no digit, so the two ways to be one
exclude each other. -/
theorem Spells.unique {m : Nat} (h : Spells base cs n) (h' : Spells base cs m) : n = m := by
  obtain ⟨digits, rfl | rfl, -, hvalue⟩ := h
  · obtain ⟨others, rfl | rfl, -, hvalue'⟩ := h'
    · exact hvalue.unique hvalue'
    · exact absurd hvalue not_hasValue_plus
  · obtain ⟨others, rfl | hothers, -, hvalue'⟩ := h'
    · exact absurd hvalue' not_hasValue_plus
    · obtain rfl := (List.cons.inj hothers).2
      exact hvalue.unique hvalue'

/-- **A number is read exactly if it is spelled and below the limit.**  There are four cases in the
reader; in the first two nothing is spelled. -/
theorem read_eq_ok_iff (hbase : 0 < base) (hlimit : 0 < limit) :
    read base limit cs = .ok n ↔ Spells base cs n ∧ n < limit := by
  unfold read
  split
  · -- Nothing at all.
    refine iff_of_false (by intro h; cases h) ?_
    rintro ⟨⟨digits, h | h, hne, -⟩, -⟩
    · exact hne h.symm
    · cases h
  · -- A sign alone.
    refine iff_of_false (by intro h; cases h) ?_
    rintro ⟨⟨digits, rfl | h, hne, hvalue⟩, -⟩
    · exact not_hasValue_plus hvalue
    · exact hne (List.cons.inj h).2.symm
  · rename_i digits hne
    rw [extend_zero_eq_ok_iff hbase hlimit]
    refine and_congr_left fun _ => ⟨fun hvalue => ⟨digits, .inr rfl, hne, hvalue⟩, ?_⟩
    rintro ⟨other, rfl | h, -, hvalue⟩
    · exact absurd hvalue not_hasValue_plus
    · rwa [(List.cons.inj h).2]
  · rename_i hnil hsign hmark
    rw [extend_zero_eq_ok_iff hbase hlimit]
    refine and_congr_left fun _ => ⟨fun hvalue => ⟨cs, .inl rfl, hnil, hvalue⟩, ?_⟩
    rintro ⟨other, rfl | h, -, hvalue⟩
    · exact hvalue
    · exact absurd h (hmark other)

/-- **A number that is spelled but reaches the limit is refused for that.**  No digit behind the one
that reaches it is looked at, and none would help. -/
theorem read_eq_tooLarge (hlimit : 0 < limit) (h : Spells base cs n) (hlarge : limit ≤ n) :
    read base limit cs = .error .tooLarge := by
  obtain ⟨digits, hcs, hne, values, hall, rfl⟩ := h
  rw [ofDigits_reverse_eq_foldl] at hlarge
  have hextend : extend base limit 0 digits = .error .tooLarge :=
    extend_eq_tooLarge hlimit hall hlarge
  rcases hcs with rfl | rfl
  · rw [read]
    · exact hextend
    · exact hne
    · rintro rfl
      exact not_hasValue_plus ⟨values, hall, rfl⟩
    · rintro rest rfl
      exact not_hasValue_plus ⟨values, hall, rfl⟩
  · rw [read]
    · exact hextend
    · exact fun hnil => hne hnil

/-- **What is printed in digits spells the number that was printed.**  No sign is printed, and no
zero in front. -/
theorem spells_toDigits (hone : 1 < base) (hbase : base ≤ 16) (n : Nat) :
    Spells base (Nat.toDigits base n) n :=
  ⟨_, .inl rfl, Nat.toDigits_ne_nil, hasValue_toDigits hone hbase n⟩

/-- Zeros that fill it up do not matter.  Zeros in front have no value, however many there are. -/
theorem hasValue_leftpad (hone : 1 < base) (hbase : base ≤ 16) (width n : Nat) :
    HasValue base ((Nat.toDigits base n).leftpad width '0') n := by
  rw [List.leftpad]
  generalize width - (Nat.toDigits base n).length = zeros
  induction zeros with
  | zero => exact hasValue_toDigits hone hbase n
  | succ zeros ih => exact ih.zero_cons (by omega)

theorem spells_leftpad (hone : 1 < base) (hbase : base ≤ 16) (width n : Nat) :
    Spells base ((Nat.toDigits base n).leftpad width '0') n :=
  ⟨_, .inl rfl, List.append_ne_nil_of_right_ne_nil _ Nat.toDigits_ne_nil,
    hasValue_leftpad hone hbase width n⟩

/-! ## 4. Columns

A reader takes a numeral in either case, behind a sign and behind any number of zeros.  A printer
has to decide, and what it decides is said here apart from any printer. -/

/-- The text shows this number in a column of the given width: in digits without a capital, which
have it as their value, and in no more of them than the width asks for or the number needs. -/
structure Shows (base width : Nat) (cs : List Char) (n : Nat) : Prop where
  value : HasValue base cs n
  lower : ∀ c ∈ cs, c.isUpper = false
  width_le : width ≤ cs.length
  needed : cs.length = width ∨ base ^ (cs.length - 1) ≤ n

theorem lt_of_forall₂_digit (hall : List.Forall₂ (Digit base) cs values) :
    ∀ d ∈ values, d < base := by
  induction hall with
  | nil => exact fun d hd => absurd hd List.not_mem_nil
  | cons hd _ ih => exact List.forall_mem_cons.2 ⟨hd.1, ih⟩

/-- So many digits take a number no further than this.  It bounds the length of a column from below
by the number it shows. -/
theorem HasValue.lt_pow (hone : 1 < base) (h : HasValue base cs n) : n < base ^ cs.length := by
  obtain ⟨values, hall, rfl⟩ := h
  rw [hall.length_eq, ← List.length_reverse]
  exact Nat.ofDigits_lt_base_pow_length hone fun d hd =>
    lt_of_forall₂_digit hall d (List.mem_reverse.1 hd)

/-- But for capitals, a digit is determined by its value.  Below ten there is one character, from
ten on there are two, of which one is a capital. -/
theorem Digit.eq_of_lower {c' : Char} (h : Digit base c d) (h' : Digit base c' d)
    (hc : c.isUpper = false) (hc' : c'.isUpper = false) : c = c' := by
  have hupper : ∀ a : Char, a.isUpper = true ↔ 65 ≤ a.toNat ∧ a.toNat ≤ 90 := fun _ =>
    decide_eq_true_iff
  rw [← Bool.not_eq_true, hupper] at hc hc'
  simp only [Digit, Char.reduceToNat] at h h'
  refine Char.toNat_inj.1 ?_
  omega

/-- Two columns of one number that are of one length are the same. -/
theorem eq_of_forall₂_lower {ds : List Char} (hcs : List.Forall₂ (Digit base) cs values)
    (hds : List.Forall₂ (Digit base) ds values) (hc : ∀ c ∈ cs, c.isUpper = false)
    (hd : ∀ c ∈ ds, c.isUpper = false) : cs = ds := by
  induction hcs generalizing ds with
  | nil => exact (List.forall₂_nil_right_iff.1 hds).symm
  | cons hdigit _ ih =>
    obtain ⟨c', rest, hdigit', hrest, rfl⟩ := List.forall₂_cons_right_iff.1 hds
    obtain ⟨hc, hcs⟩ := List.forall_mem_cons.1 hc
    obtain ⟨hd, hds⟩ := List.forall_mem_cons.1 hd
    rw [hdigit.eq_of_lower hdigit' hc hd, ih hrest hcs hds]

namespace Shows

variable {width : Nat} {ds : List Char}

theorem length_le (hone : 1 < base) (h : Shows base width cs n) (h' : Shows base width ds n) :
    cs.length ≤ ds.length := by
  by_contra hlt
  have hlt := Nat.lt_of_not_le hlt
  have hwidth := h'.width_le
  rcases h.needed with hlength | hneeded
  · omega
  · -- The longer one would have a digit too many.
    have hpow : base ^ ds.length ≤ base ^ (cs.length - 1) :=
      Nat.pow_le_pow_right (Nat.zero_lt_of_lt hone) (Nat.le_sub_one_of_lt hlt)
    exact absurd (Nat.le_trans hpow hneeded) (Nat.not_le.2 (h'.value.lt_pow hone))

/-- **A number is shown in one way.**  First the lengths agree, since a longer column would have a
digit too many, and then the digits. -/
theorem unique (hone : 1 < base) (h : Shows base width cs n) (h' : Shows base width ds n) :
    cs = ds := by
  have hlength := Nat.le_antisymm (h.length_le hone h') (h'.length_le hone h)
  obtain ⟨values, hall, hn⟩ := h.value
  obtain ⟨others, hothers, hn'⟩ := h'.value
  have hsame : values.reverse.length = others.reverse.length := by
    rw [List.length_reverse, List.length_reverse, ← hall.length_eq, ← hothers.length_eq, hlength]
  have hreverse := Nat.ofDigits_inj_of_len_eq hone hsame
    (fun d hd => lt_of_forall₂_digit hall d (List.mem_reverse.1 hd))
    (fun d hd => lt_of_forall₂_digit hothers d (List.mem_reverse.1 hd)) (hn.symm.trans hn')
  obtain rfl := List.reverse_injective hreverse
  exact eq_of_forall₂_lower hall hothers h.lower h'.lower

end Shows

theorem isUpper_toDigits (hone : 1 < base) (hbase : base ≤ 16) (n : Nat) :
    ∀ c ∈ Nat.toDigits base n, c.isUpper = false := by
  have hdigit : ∀ d < 16, (Nat.digitChar d).isUpper = false := by decide
  induction n using Nat.strong_induction_on with
  | _ n ih =>
    rw [Nat.toDigits_eq_if hone]
    split
    next hlt =>
      exact List.forall_mem_singleton.2 (hdigit n (Nat.lt_of_lt_of_le hlt hbase))
    next hge =>
      have hless : n / base < n := Nat.div_lt_self (by omega) hone
      have hlast := hdigit (n % base) (Nat.lt_of_lt_of_le (Nat.mod_lt n (by omega)) hbase)
      exact List.forall_mem_append.2 ⟨ih _ hless, List.forall_mem_singleton.2 hlast⟩

/-- **What is printed in digits and filled up with zeros shows the number.**  Either something was
filled up, or the digits are all needed. -/
theorem shows_leftpad (hone : 1 < base) (hbase : base ≤ 16) {width : Nat} (hwidth : 0 < width)
    (n : Nat) : Shows base width ((Nat.toDigits base n).leftpad width '0') n where
  value := hasValue_leftpad hone hbase width n
  lower c hc := by
    rcases List.mem_append.1 hc with hzero | hdigit
    · obtain rfl := List.eq_of_mem_replicate hzero
      rfl
    · exact isUpper_toDigits hone hbase n c hdigit
  width_le := List.length_leftpad ▸ Nat.le_max_left ..
  needed := by
    rw [List.length_leftpad]
    rcases Nat.lt_or_ge width (Nat.toDigits base n).length with hlt | hle
    · -- Nothing is filled up, so all digits are those of the number.
      have hless : ¬ (Nat.toDigits base n).length ≤ (Nat.toDigits base n).length - 1 := by omega
      rw [Nat.max_eq_right (Nat.le_of_lt hlt)]
      rw [Nat.length_toDigits_le_iff hone (by omega)] at hless
      exact .inr (Nat.le_of_not_lt hless)
    · exact .inl (Nat.max_eq_left hle)

/-- A column of width one is what the number takes. -/
theorem shows_toDigits (hone : 1 < base) (hbase : base ≤ 16) (n : Nat) :
    Shows base 1 (Nat.toDigits base n) n := by
  have hpos : 0 < (Nat.toDigits base n).length := List.length_pos_of_ne_nil Nat.toDigits_ne_nil
  have hshows := shows_leftpad hone hbase Nat.one_pos n
  rwa [List.leftpad, Nat.sub_eq_zero_of_le hpos] at hshows

/-- A column of two digits, where two are enough.  Bytes are printed so in base sixteen, and the
numbers of pins in base ten. -/
theorem leftpad_two (hone : 1 < base) (h : n < base * base) :
    (Nat.toDigits base n).leftpad 2 '0' = [Nat.digitChar (n / base), Nat.digitChar (n % base)] := by
  rcases Nat.lt_or_ge n base with hn | hn
  · rw [Nat.toDigits_of_lt_base hn, Nat.div_eq_of_lt hn, Nat.mod_eq_of_lt hn]
    rfl
  · have hhigh : n / base < base := Nat.div_lt_of_lt_mul h
    rw [Nat.toDigits_of_base_le hone hn, Nat.toDigits_of_lt_base hhigh]
    rfl

/-- **Nothing is left open by what a column shows**: there is one text that does. -/
theorem shows_iff (hone : 1 < base) (hbase : base ≤ 16) {width : Nat} (hwidth : 0 < width) :
    Shows base width cs n ↔ cs = (Nat.toDigits base n).leftpad width '0' := by
  constructor
  · exact fun h => h.unique hone (shows_leftpad hone hbase hwidth n)
  · rintro rfl
    exact shows_leftpad hone hbase hwidth n

end SerialEeprom.Text.Numeral
