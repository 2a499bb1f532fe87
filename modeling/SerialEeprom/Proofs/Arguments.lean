/-
# What arguments denote

A number may be written in one of two bases, and a mark in front says in which; a byte has one
base, and the mark is allowed but says nothing.  Here is what a text denotes, said without reading
it: the mark or none, and behind it a numeral of the base (`Denotes`, `DenotesByte`).

A number is read at thirty-two bits, and then narrowed where fewer are wanted.  The narrowing is
behind a comparison, so that no bit is lost: a text is read at some width exactly if the number it
denotes has that width, and else it is refused (`narrowed_eq_ok_iff`).  The two readers with a
narrower result are one definition with its bound, its conversion and its error as parameters
(`narrowed`).

Bytes are read one by one up to the first that is none.  So they are read exactly if each token
denotes one, and the error is that of the first token which does not (`mapM_eq_error_iff`).

Options of the command line are the third kind.  They may be missing, and a set-up is read exactly
if each option gives its part of it, by its text or by the standard value
(`DeviceOptions.config_eq_ok_iff`).  In which order they are read matters to errors only.

In all three the readers come down to `Numeral.read`, and what it reads is known
(`Numeral.read_eq_ok_iff`); what remains is the mark, the width, and the plumbing of errors, for
which the lemmas on `Except` in the first section are made.

Main statements: numbers of either width are read with the value they denote, and no others are
read (`read_at_their_value`); lists of bytes are read exactly if every token denotes a byte, and
what is printed of a list is read as that list (`read_byte_by_byte`).
-/
import SerialEeprom.Proofs.PinText
import SerialEeprom.Proofs.Spelling

namespace SerialEeprom.Command

open SerialEeprom.Text

variable {source : String} {cs digits token : List Char} {n : Nat} {b : UInt8}

/-! ## 1. Readers that may fail -/

section Readers

variable {α β ε δ : Type} {x : Except ε α} {f : α → Except ε β} {as : List α} {bs : List β} {e : ε}

theorem bind_eq_ok_iff {b : β} : x >>= f = .ok b ↔ ∃ a, x = .ok a ∧ f a = .ok b := by
  cases x <;> simp [bind, Except.bind]

theorem bind_eq_error_iff :
    x >>= f = .error e ↔ x = .error e ∨ ∃ a, x = .ok a ∧ f a = .error e := by
  cases x <;> simp [bind, Except.bind]

/-- What is read does not depend on how an error would be seen.  An error is put into the words of
whoever asked, and a value is passed on. -/
theorem mapError_eq_ok_iff {g : ε → δ} {a : α} : x.mapError g = .ok a ↔ x = .ok a := by
  cases x <;> simp [Except.mapError]

theorem mapM_eq_ok_iff : as.mapM f = .ok bs ↔ List.Forall₂ (fun a b => f a = .ok b) as bs := by
  induction as generalizing bs with
  | nil => simp [pure, Except.pure, eq_comm]
  | cons a as ih =>
    simp only [List.mapM_cons, bind_eq_ok_iff, ih, List.forall₂_cons_left_iff]
    constructor
    · rintro ⟨b, hb, bs, hbs, h⟩
      exact ⟨b, bs, hb, hbs, (Except.ok.inj h).symm⟩
    · rintro ⟨b, bs, hb, hbs, rfl⟩
      exact ⟨b, hb, bs, hbs, rfl⟩

theorem mapM_cons_eq_error_iff {a : α} : (a :: as).mapM f = .error e ↔
    f a = .error e ∨ (∃ b, f a = .ok b) ∧ as.mapM f = .error e := by
  simp [List.mapM_cons, bind_eq_error_iff, pure, Except.pure]

/-- A list fails with the error of its first member that fails.  Those in front of it were read, and
those behind it are not looked at. -/
theorem mapM_eq_error_iff : as.mapM f = .error e ↔
    ∃ before bad after, as = before ++ bad :: after ∧ (∀ a ∈ before, ∃ b, f a = .ok b) ∧
      f bad = .error e := by
  induction as with
  | nil => simp [pure, Except.pure]
  | cons a as ih =>
    rw [mapM_cons_eq_error_iff, ih]
    constructor
    · rintro (h | ⟨ha, before, bad, after, rfl, hbefore, hbad⟩)
      · exact ⟨[], a, as, rfl, fun _ h => absurd h List.not_mem_nil, h⟩
      · exact ⟨a :: before, bad, after, rfl, List.forall_mem_cons.2 ⟨ha, hbefore⟩, hbad⟩
    · rintro ⟨_ | ⟨first, before⟩, bad, after, h, hbefore, hbad⟩
      · obtain ⟨rfl, rfl⟩ := List.cons.inj h
        exact .inl hbad
      · obtain ⟨rfl, rfl⟩ := List.cons.inj h
        obtain ⟨ha, hbefore⟩ := List.forall_mem_cons.1 hbefore
        exact .inr ⟨ha, before, bad, after, rfl, hbefore, hbad⟩

end Readers

/-! ## 2. The mark

Its letter is a digit in no base up to sixteen, so no numeral can be mistaken for it. -/

/-- The text is the mark of a hexadecimal number, in either case, and these digits behind it.  The
digits may be none, and need not be digits. -/
def Marked (cs digits : List Char) : Prop :=
  cs = '0' :: 'x' :: digits ∨ cs = '0' :: 'X' :: digits

theorem hexDigits_eq_some_iff : hexDigits? cs = some digits ↔ Marked cs digits := by
  unfold hexDigits?
  split
  · simp [Marked, eq_comm]
  · simp [Marked, eq_comm]
  · rename_i hlower hupper
    simp only [reduceCtorEq, false_iff]
    rintro (h | h)
    · exact hlower digits h
    · exact hupper digits h

/-- A numeral never starts with the mark, whose letter is no digit. -/
theorem hexDigits_of_spells (h : Numeral.Spells 16 cs n) : hexDigits? cs = none := by
  have hread : Numeral.read 16 (n + 1) cs = .ok n :=
    (Numeral.read_eq_ok_iff (by decide) n.succ_pos).2 ⟨h, n.lt_succ_self⟩
  have hall := (Numeral.of_read_ok hread).2
  rcases hd : hexDigits? cs with _ | digits
  · rfl
  · rcases hexDigits_eq_some_iff.1 hd with rfl | rfl
    · exact absurd (hall 'x' (by simp)) (by decide)
    · exact absurd (hall 'X' (by simp)) (by decide)

/-! ## 3. Numbers

One base for each text: behind the mark sixteen, else ten. -/

/-- A numeral is read as a word exactly if it spells the number of that word, where words are as
many as there are numbers below the limit. -/
theorem map_read_eq_ok_iff {α : Type} {base limit : Nat} {ofNat : Nat → α} {toNat : α → Nat}
    (hbase : 0 < base) (hlt : ∀ x, toNat x < limit) (hto : ∀ n < limit, toNat (ofNat n) = n)
    (hof : ∀ x, ofNat (toNat x) = x) {x : α} :
    (Numeral.read base limit digits).map ofNat = .ok x ↔
      Numeral.Spells base digits (toNat x) := by
  have hlimit : 0 < limit := Nat.zero_lt_of_lt (hlt x)
  rw [← and_iff_left (a := Numeral.Spells base digits (toNat x)) (hlt x),
    ← Numeral.read_eq_ok_iff hbase hlimit]
  rcases hr : Numeral.read base limit digits with cause | n
  · simp [Except.map]
  · simp only [Except.map, Except.ok.injEq]
    constructor
    · rintro rfl
      exact (hto n (Numeral.read_lt hlimit hr)).symm
    · rintro rfl
      exact hof x

/-- The text denotes this number: in base sixteen behind the mark, and in base ten without it.  No
limit is mentioned, so a text may denote a number that no reader takes. -/
def Denotes (cs : List Char) (n : Nat) : Prop :=
  (∃ digits, Marked cs digits ∧ Numeral.Spells 16 digits n) ∨
    (∀ digits, ¬ Marked cs digits) ∧ Numeral.Spells 10 cs n

/-- A text is read in one base, in which its digits spell what it denotes.  What follows about
numbers needs no case on the mark. -/
theorem number_inv (source : String) : ∃ base digits, 0 < base ∧
    (∀ n, Denotes source.toList n ↔ Numeral.Spells base digits n) ∧
      number source
        = ((Numeral.read base (2 ^ 32) digits).map UInt32.ofNat).mapError (.number source) := by
  rcases hd : hexDigits? source.toList with _ | digits
  · have hunmarked : ∀ digits, ¬ Marked source.toList digits := by
      intro digits h
      cases (hexDigits_eq_some_iff.2 h).symm.trans hd
    refine ⟨10, source.toList, by decide, fun n => by simp [Denotes, hunmarked], ?_⟩
    simp only [number, hd, Nat.reducePow]
    rcases Numeral.read 10 4294967296 source.toList with cause | m <;> rfl
  · have hmarked := hexDigits_eq_some_iff.1 hd
    refine ⟨16, digits, by decide, fun n => ⟨?_, fun h => .inl ⟨digits, hmarked, h⟩⟩, ?_⟩
    · rintro (⟨others, hothers, h⟩ | ⟨hunmarked, -⟩)
      · obtain rfl := Option.some.inj (hd.symm.trans (hexDigits_eq_some_iff.2 hothers))
        exact h
      · exact absurd hmarked (hunmarked digits)
    · simp only [number, hd, Nat.reducePow]
      rcases Numeral.read 16 4294967296 digits with cause | m <;> rfl

theorem Denotes.unique {m : Nat} (h : Denotes source.toList n) (h' : Denotes source.toList m) :
    n = m := by
  obtain ⟨base, digits, -, hspells, -⟩ := number_inv source
  exact ((hspells n).1 h).unique ((hspells m).1 h')

/-- **A text is read as a number exactly if it denotes it.**  The limit does not show, as a value of
thirty-two bits is below it. -/
theorem number_eq_ok_iff {v : UInt32} : number source = .ok v ↔ Denotes source.toList v.toNat := by
  obtain ⟨base, digits, hbase, hspells, hnumber⟩ := number_inv source
  rw [hspells, hnumber, mapError_eq_ok_iff]
  exact map_read_eq_ok_iff hbase UInt32.toNat_lt (fun _ => UInt32.toNat_ofNat_of_lt')
    fun _ => UInt32.ofNat_toNat

/-- A number that takes more than thirty-two bits is refused for that.  So it is told from a text
that denotes no number. -/
theorem number_eq_tooLarge (h : Denotes source.toList n) (hn : 2 ^ 32 ≤ n) :
    number source = .error (.number source .tooLarge) := by
  obtain ⟨base, digits, -, hspells, hnumber⟩ := number_inv source
  rw [hnumber, Numeral.read_eq_tooLarge (by decide) ((hspells n).1 h) hn]
  rfl

/-- What is denoted and has thirty-two bits is read.  The width is that in which every number is
read, before it is narrowed. -/
theorem number_of_denotes (h : Denotes source.toList n) (hn : n < 2 ^ 32) :
    number source = .ok (UInt32.ofNat n) := by
  rw [number_eq_ok_iff, UInt32.toNat_ofNat_of_lt' hn]
  exact h

/-! ## 4. Fewer bits -/

/-- Read a number and refuse it beyond a bound, below which it is made narrower.  The order matters:
a number that is made narrower first could be any number. -/
def narrowed {α : Type} (bound : UInt32) (narrow : UInt32 → α) (wide : ArgumentError)
    (source : String) : Except ArgumentError α := do
  let v ← number source
  if v ≤ bound then pure (narrow v) else throw wide

theorem number16_eq_narrowed (source : String) :
    number16 source = narrowed 0xffff UInt32.toUInt16 (.wide source) source := rfl

theorem busAddress_eq_narrowed (source : String) :
    busAddress source = narrowed 0xff UInt32.toUInt8 (.wideAddress source) source := rfl

section Narrowed

variable {α : Type} {bound : UInt32} {narrow : UInt32 → α} {wide : ArgumentError}

theorem narrowed_of_le {v : UInt32} (h : number source = .ok v) (hv : v ≤ bound) :
    narrowed bound narrow wide source = .ok (narrow v) := by
  simp only [narrowed, h, bind, Except.bind, if_pos hv]
  rfl

theorem narrowed_of_lt {v : UInt32} (h : number source = .ok v) (hv : bound < v) :
    narrowed bound narrow wide source = .error wide := by
  simp only [narrowed, h, bind, Except.bind, if_neg (UInt32.not_le.2 hv)]
  rfl

theorem narrowed_of_error {cause : ArgumentError} (h : number source = .error cause) :
    narrowed bound narrow wide source = .error cause := by
  simp only [narrowed, h, bind, Except.bind]

/-- **Nothing is lost by the narrowing**, if the narrow type has just the numbers up to the
bound. -/
theorem narrowed_eq_ok_iff {toNat : α → Nat} (hinj : Function.Injective toNat)
    (hnarrow : ∀ v ≤ bound, toNat (narrow v) = v.toNat) (hle : ∀ x, toNat x ≤ bound.toNat) {x : α} :
    narrowed bound narrow wide source = .ok x ↔ Denotes source.toList (toNat x) := by
  constructor
  · intro h
    rcases hv : number source with cause | v
    · cases (narrowed_of_error hv).symm.trans h
    · rcases UInt32.le_or_lt v bound with hb | hb
      · obtain rfl := Except.ok.inj ((narrowed_of_le hv hb).symm.trans h)
        rw [hnarrow v hb]
        exact number_eq_ok_iff.1 hv
      · cases (narrowed_of_lt hv hb).symm.trans h
  · intro h
    have hx : toNat x < 2 ^ 32 := Nat.lt_of_le_of_lt (hle x) bound.toNat_lt
    have hb : UInt32.ofNat (toNat x) ≤ bound := by
      rw [UInt32.le_iff_toNat_le, UInt32.toNat_ofNat_of_lt' hx]
      exact hle x
    rw [narrowed_of_le (number_of_denotes h hx) hb]
    refine congrArg _ (hinj ?_)
    rw [hnarrow _ hb, UInt32.toNat_ofNat_of_lt' hx]

end Narrowed

theorem number16_eq_ok_iff {w : UInt16} :
    number16 source = .ok w ↔ Denotes source.toList w.toNat := by
  rw [number16_eq_narrowed]
  refine narrowed_eq_ok_iff (fun _ _ => UInt16.toNat.inj) (fun v hv => ?_) fun x => ?_
  · rw [UInt32.toNat_toUInt16]
    exact Nat.mod_eq_of_lt (Nat.lt_succ_of_le (UInt32.le_iff_toNat_le.1 hv))
  · exact Nat.le_of_lt_succ x.toNat_lt

theorem busAddress_eq_ok_iff {a : UInt8} :
    busAddress source = .ok a ↔ Denotes source.toList a.toNat := by
  rw [busAddress_eq_narrowed]
  refine narrowed_eq_ok_iff (fun _ _ => UInt8.toNat.inj) (fun v hv => ?_) fun x => ?_
  · rw [UInt32.toNat_toUInt8]
    exact Nat.mod_eq_of_lt (Nat.lt_succ_of_le (UInt32.le_iff_toNat_le.1 hv))
  · exact Nat.le_of_lt_succ x.toNat_lt

/-- **Numbers are read at the value they denote.**  A text is read as a number exactly if it
denotes one of thirty-two bits, and as one of sixteen bits exactly if in addition sixteen suffice,
with the same value.  No text denotes two numbers, and what denotes one that is too large is
refused for that. -/
theorem read_at_their_value (source : String) (n : Nat) :
    ((∃ v : UInt32, number source = .ok v ∧ v.toNat = n) ↔
        Denotes source.toList n ∧ n < 2 ^ 32) ∧
      ((∃ w : UInt16, number16 source = .ok w ∧ w.toNat = n) ↔
        (∃ v : UInt32, number source = .ok v ∧ v.toNat = n) ∧ n ≤ 0xffff) ∧
      (Denotes source.toList n →
        (∀ m, Denotes source.toList m → m = n) ∧
        (2 ^ 32 ≤ n → number source = .error (.number source .tooLarge)) ∧
        (0xffff < n → n < 2 ^ 32 → number16 source = .error (.wide source))) := by
  have hnumber : (∃ v : UInt32, number source = .ok v ∧ v.toNat = n) ↔
      Denotes source.toList n ∧ n < 2 ^ 32 := by
    constructor
    · rintro ⟨v, hv, rfl⟩
      exact ⟨number_eq_ok_iff.1 hv, v.toNat_lt⟩
    · rintro ⟨h, hn⟩
      exact ⟨_, number_of_denotes h hn, UInt32.toNat_ofNat_of_lt' hn⟩
  refine ⟨hnumber, ?_, fun h => ⟨fun m hm => hm.unique h, number_eq_tooLarge h, fun hlow hn => ?_⟩⟩
  · rw [hnumber]
    constructor
    · rintro ⟨w, hw, rfl⟩
      have hlt := w.toNat_lt
      exact ⟨⟨number16_eq_ok_iff.1 hw, by omega⟩, by omega⟩
    · rintro ⟨⟨h, -⟩, hn⟩
      have hw : (UInt16.ofNat n).toNat = n := UInt16.toNat_ofNat_of_lt' (Nat.lt_succ_of_le hn)
      exact ⟨_, number16_eq_ok_iff.2 (hw.symm ▸ h), hw⟩
  · refine (number16_eq_narrowed source).trans (narrowed_of_lt (number_of_denotes h hn) ?_)
    rwa [UInt32.lt_iff_toNat_lt, UInt32.toNat_ofNat_of_lt' hn]

/-- A sign and zeros behind the mark change nothing, and the seventeenth bit is found. -/
theorem read_at_their_value_beyond_sixteen_bits :
    Denotes "0X+000010000".toList 0x10000 ∧
      number16 "0X+000010000" = .error (.wide "0X+000010000") := by
  have hread : number "0X+000010000" = .ok 0x10000 := rfl
  have hdenotes : Denotes "0X+000010000".toList 0x10000 := number_eq_ok_iff.1 hread
  have hwide := ((read_at_their_value "0X+000010000" 0x10000).2.2 hdenotes).2.2
  exact ⟨hdenotes, hwide (by decide) (by decide)⟩

/-! ## 5. Bytes

One base for all, so the mark makes no difference. -/

/-- The token denotes this byte: in base sixteen, behind the mark or without it.  Behind the mark
there is a numeral like any other, with a sign in front or not and as many zeros as one likes. -/
def DenotesByte (token : List Char) (b : UInt8) : Prop :=
  ∃ digits, (token = digits ∨ Marked token digits) ∧ Numeral.Spells 16 digits b.toNat

theorem byte_eq (token : List Char) : byte token
    = ((Numeral.read 16 256 ((hexDigits? token).getD token)).map UInt8.ofNat).mapError
        (.byte (String.ofList token)) := by
  rw [byte]
  rcases Numeral.read 16 256 ((hexDigits? token).getD token) with cause | n <;> rfl

theorem byte_eq_ok_iff : byte token = .ok b ↔ DenotesByte token b := by
  rw [byte_eq, mapError_eq_ok_iff, map_read_eq_ok_iff (by decide) UInt8.toNat_lt
    (fun _ => UInt8.toNat_ofNat_of_lt') fun _ => UInt8.ofNat_toNat]
  constructor
  · intro h
    rcases hd : hexDigits? token with _ | digits
    · exact ⟨token, .inl rfl, by rwa [hd] at h⟩
    · exact ⟨digits, .inr (hexDigits_eq_some_iff.1 hd), by rwa [hd] at h⟩
  · rintro ⟨digits, rfl | hmarked, h⟩
    · rwa [hexDigits_of_spells h]
    · rwa [hexDigits_eq_some_iff.2 hmarked]

/-- The error of a token names it.  The whole token is named, with its mark. -/
theorem byte_error {e : ArgumentError} (h : byte token = .error e) :
    ∃ cause, e = .byte (String.ofList token) cause := by
  rw [byte_eq] at h
  rcases hr : Numeral.read 16 256 ((hexDigits? token).getD token) with cause | n
  · rw [hr] at h
    exact ⟨cause, (Except.error.inj h).symm⟩
  · rw [hr] at h
    cases h

/-! ## 6. Lists of bytes -/

/-- **Bytes are read one by one.**  A list of tokens is read exactly if each denotes a byte, as
those bytes in order; else the error is that of the first token which denotes none, and names it.
And what is printed of a list of bytes is read, word by word, as the same list. -/
theorem read_byte_by_byte :
    (∀ (tokens : List (List Char)) (data : List UInt8),
        bytes tokens = .ok data ↔ List.Forall₂ DenotesByte tokens data) ∧
      (∀ (tokens : List (List Char)) (e : ArgumentError), bytes tokens = .error e ↔
        ∃ before bad after, tokens = before ++ bad :: after ∧
          (∀ token ∈ before, ∃ b, DenotesByte token b) ∧ (∀ b, ¬ DenotesByte bad b) ∧
          byte bad = .error e ∧ ∃ cause, e = .byte (String.ofList bad) cause) ∧
      ∀ data : List UInt8, bytes (words (Hex.spaced data)) = .ok data := by
  refine ⟨fun tokens data => ?_, fun tokens e => ?_, bytes_spaced⟩
  · simp only [bytes, mapM_eq_ok_iff, byte_eq_ok_iff]
  · simp only [bytes, mapM_eq_error_iff, byte_eq_ok_iff]
    constructor
    · rintro ⟨before, bad, after, htokens, hbefore, hbad⟩
      refine ⟨before, bad, after, htokens, hbefore, fun b hb => ?_, hbad, byte_error hbad⟩
      cases (byte_eq_ok_iff.2 hb).symm.trans hbad
    · rintro ⟨before, bad, after, htokens, hbefore, -, hbad, -⟩
      exact ⟨before, bad, after, htokens, hbefore, hbad⟩

/-! ## 7. Options

An option of the command line may be missing, and then has its standard value.  If it is there, its
text is read, and the value is what the text says. -/

/-- What an option stands for: its standard value if it is missing, and what its text says if
not. -/
def Gives {α : Type} (given : Option String) (standard : α) (Says : String → α → Prop) (x : α) :
    Prop :=
  match given with
  | none => x = standard
  | some source => Says source x

theorem optionOr_eq_ok_iff {α : Type} (name : String) {given : Option String} {standard x : α}
    {read : String → Except ArgumentError α} {Says : String → α → Prop}
    (hread : ∀ {source x}, read source = .ok x ↔ Says source x) :
    optionOr name given standard read = .ok x ↔ Gives given standard Says x := by
  rcases given with _ | source
  · simp [optionOr, Gives, eq_comm]
  · rw [Gives, ← hread, optionOr, mapError_eq_ok_iff]

theorem pin_eq_ok_iff {p : Pin} : pin source = .ok p ↔ Pin.Written source p := by
  rw [pin, mapError_eq_ok_iff, Pin.parse_eq_ok_iff]

/-- The options stand for this set-up, whether it can work or not.  Each has a part of its own, and
none depends on another. -/
structure DeviceOptions.StandFor (o : DeviceOptions) (config : DeviceConfig) : Prop where
  size : Gives o.size 256 (fun source size => Denotes source.toList size.toNat) config.size
  address : Gives o.address 0x50 (fun source address => Denotes source.toList address.toNat)
    config.address
  sda : Gives o.sda ⟨0, 26⟩ Pin.Written config.sda
  scl : Gives o.scl ⟨0, 27⟩ Pin.Written config.scl

/-- **A set-up is read exactly if each option gives its part of it.**  There is no condition on the
four together; those are checked when a device is made. -/
theorem DeviceOptions.config_eq_ok_iff {o : DeviceOptions} {config : DeviceConfig} :
    o.config = .ok config ↔ o.StandFor config := by
  simp only [DeviceOptions.config, bind_eq_ok_iff, optionOr_eq_ok_iff "size" number16_eq_ok_iff,
    optionOr_eq_ok_iff "address" busAddress_eq_ok_iff, optionOr_eq_ok_iff "sda" pin_eq_ok_iff,
    optionOr_eq_ok_iff "scl" pin_eq_ok_iff]
  constructor
  · rintro ⟨size, hsize, address, haddress, sda, hsda, scl, hscl, h⟩
    obtain rfl := Except.ok.inj h
    exact ⟨hsize, haddress, hsda, hscl⟩
  · rintro ⟨hsize, haddress, hsda, hscl⟩
    exact ⟨_, hsize, _, haddress, _, hsda, _, hscl, rfl⟩

end SerialEeprom.Command
