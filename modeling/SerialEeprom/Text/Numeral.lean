/-
# Unsigned numerals

Reading a number written in a base up to sixteen: an optional plus sign, then digits, letters of
either case.  Only ASCII digits count, and there is no sign for a negative number.  Every number
that comes from outside is read here, whatever it stands for: sizes, addresses, counts, the bytes of
a write, the two parts of a pin.

A number is read for a limit, below which it must stay.  Reading goes through the digits from the
left and checks the limit at each of them, so it never holds a number that is much too large; it
stops at the first fault.  That decides which fault is reported for a text that has two: a character
that is no digit is found before the number it ends is found too large, but behind a number that was
too large already it is not looked at.

* Nothing at all is a fault of its own (`Fault.empty`); a plus sign alone is found to be no digit
  (`Fault.invalidDigit`).
* Zeros in front are digits like others, in any number.

Main statements: a number that was read is below the limit (`read_lt`), and was written in digits
(`of_read_ok`).  Which number a text spells, and that reading finds it, is said apart from the
reading in the proofs about numerals.
-/
namespace SerialEeprom.Text.Numeral

/-- Why a text is not a number.  A text with several faults is refused for the one that is found
first. -/
inductive Fault where
  | empty
  | invalidDigit
  | tooLarge
  deriving DecidableEq, Repr

/-- The wording of a fault. -/
def Fault.message : Fault → String
  | .empty => "cannot parse integer from empty string"
  | .invalidDigit => "invalid digit found in string"
  | .tooLarge => "number too large to fit in target type"

/-- The value of a digit in the given base, from nought to one less than the base. -/
def digit? (base : Nat) (c : Char) : Option Nat :=
  let value? :=
    if '0' ≤ c ∧ c ≤ '9' then some (c.toNat - '0'.toNat)
    else if 'a' ≤ c ∧ c ≤ 'f' then some (c.toNat - 'a'.toNat + 10)
    else if 'A' ≤ c ∧ c ≤ 'F' then some (c.toNat - 'A'.toNat + 10)
    else none
  value?.filter (· < base)

/-- Continue a number `value` with further digits, keeping it below `limit`.  The check comes after
each digit, and does not wait for the last. -/
def extend (base limit : Nat) : Nat → List Char → Except Fault Nat
  | value, [] => .ok value
  | value, c :: rest =>
    match digit? base c with
    | none => .error .invalidDigit
    | some d =>
      if value * base + d < limit then extend base limit (value * base + d) rest
      else .error .tooLarge

/-- Read a number below `limit`.  A sign alone is no number, and only a plus sign is allowed. -/
def read (base limit : Nat) : List Char → Except Fault Nat
  | [] => .error .empty
  | ['+'] => .error .invalidDigit
  | '+' :: digits => extend base limit 0 digits
  | digits => extend base limit 0 digits

theorem extend_lt {base limit value : Nat} {cs : List Char} {n : Nat} (hv : value < limit)
    (h : extend base limit value cs = .ok n) : n < limit := by
  induction cs generalizing value with
  | nil =>
    simp only [extend, Except.ok.injEq] at h
    omega
  | cons c cs ih =>
    simp only [extend] at h
    split at h
    · cases h
    · split at h
      next hlt => exact ih hlt h
      next => cases h

theorem read_lt {base limit : Nat} {cs : List Char} {n : Nat} (hlimit : 0 < limit)
    (h : read base limit cs = .ok n) : n < limit := by
  unfold read at h
  split at h
  · cases h
  · cases h
  · exact extend_lt hlimit h
  · exact extend_lt hlimit h

theorem digit?_digitChar : ∀ n < 16, digit? 16 (Nat.digitChar n) = some n := by decide

/-- All digits lie between `0` and `f`. -/
theorem toNat_of_isSome_digit {base : Nat} {c : Char} (h : (digit? base c).isSome) :
    48 ≤ c.toNat ∧ c.toNat ≤ 102 := by
  have hdecimal : '0'.toNat = 48 ∧ '9'.toNat = 57 := ⟨rfl, rfl⟩
  have hlower : 'a'.toNat = 97 ∧ 'f'.toNat = 102 := ⟨rfl, rfl⟩
  have hupper : 'A'.toNat = 65 ∧ 'F'.toNat = 70 := ⟨rfl, rfl⟩
  have hle : ∀ a b : Char, a ≤ b ↔ a.toNat ≤ b.toNat := fun _ _ => Iff.rfl
  simp only [digit?, hle] at h
  split at h
  next => omega
  next =>
    split at h
    next => omega
    next =>
      split at h
      next => omega
      next => cases h

theorem isSome_digit_of_extend {base limit value n : Nat} {cs : List Char}
    (h : extend base limit value cs = .ok n) : ∀ c ∈ cs, (digit? base c).isSome := by
  induction cs generalizing value with
  | nil => exact fun c hc => absurd hc List.not_mem_nil
  | cons c cs ih =>
    rw [extend] at h
    rcases hd : digit? base c with _ | d
    · rw [hd] at h
      cases h
    · rw [hd] at h
      dsimp only at h
      split at h
      next => exact List.forall_mem_cons.2 ⟨Option.isSome_of_mem hd, ih h⟩
      next => cases h

/-- A number that was read is written in digits, behind a plus sign at most.  So there is no blank
in it, and no letter beyond the base. -/
theorem of_read_ok {base limit n : Nat} {cs : List Char} (h : read base limit cs = .ok n) :
    cs ≠ [] ∧ ∀ c ∈ cs, c = '+' ∨ (digit? base c).isSome := by
  unfold read at h
  split at h
  · cases h
  · cases h
  · refine ⟨List.cons_ne_nil _ _, List.forall_mem_cons.2 ⟨.inl rfl, ?_⟩⟩
    exact fun c hc => .inr (isSome_digit_of_extend h c hc)
  · rename_i hne _ _
    exact ⟨fun hnil => hne hnil, fun c hc => .inr (isSome_digit_of_extend h c hc)⟩

end SerialEeprom.Text.Numeral
