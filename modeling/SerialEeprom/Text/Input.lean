/-
# Lines and words of input

Input comes as bytes and is read line by line, and a line is read word by word.

A line ends at a line feed, which may have a carriage return before it; what follows the last line
feed is a line if there is anything.  So a file gives the same lines whether or not its last line is
ended, and whichever way its lines are ended.  A line that is not well-formed UTF-8 is known to be
there but cannot be read (`InputLine.undecodable`), which is for the reader to judge: a session ends
at such a line.

A line is cut into words at blanks.  A blank is any of the twenty-five characters that Unicode
counts as white space, so a no-break space or an ideographic space parts two words just as a tab
does.  Blanks in front, behind and in a row make no empty words.

Main statements: the words on the two sides of a blank are read apart (`words_append_blank`), so
the blanks in front, behind and between do not matter; and what is put together from words with a
blank between them is cut into the same words (`words_intercalate`).  The second is what makes
printed bytes readable, since they are words with a space between neighbours.
-/
namespace SerialEeprom.Text

/-! ## 1. Lines -/

/-- One line of input.  What it held is not kept if it cannot be read. -/
inductive InputLine where
  | readable (text : String)
  | undecodable
  deriving DecidableEq, Repr

namespace InputLine

/-- The bytes of a line as text. -/
def decode (bytes : List UInt8) : InputLine :=
  match String.fromUTF8? ⟨bytes.toArray⟩ with
  | some text => readable text
  | none => undecodable

/-- A line without the carriage return at its end.  One is dropped, not all that may stand there. -/
def dropReturn (bytes : List UInt8) : List UInt8 :=
  if bytes.getLast? = some 0x0d then bytes.dropLast else bytes

/-- Lines from the pieces between the line feeds.  The piece behind the last line feed has no line
end, so a carriage return at its end is kept. -/
def ofPieces : List (List UInt8) → List InputLine
  | [] => []
  | [last] => if last = [] then [] else [decode last]
  | line :: rest => decode (dropReturn line) :: ofPieces rest

/-- All lines of the input. -/
def ofBytes (bytes : List UInt8) : List InputLine :=
  ofPieces (bytes.splitOn 0x0a)

end InputLine

/-! ## 2. Words -/

/-- White space in the sense of Unicode (property White_Space). -/
def isBlank (c : Char) : Bool :=
  let n := c.toNat
  (0x9 ≤ n && n ≤ 0xd) || n == 0x20 || n == 0x85 || n == 0xa0 || n == 0x1680 ||
    (0x2000 ≤ n && n ≤ 0x200a) || n == 0x2028 || n == 0x2029 || n == 0x202f || n == 0x205f ||
    n == 0x3000

/-- The longest runs without a blank, in order. -/
def words (cs : List Char) : List (List Char) :=
  (cs.splitOnP isBlank).filter fun w => !w.isEmpty

@[simp] theorem words_nil : words [] = [] := by
  simp [words, List.splitOnP_nil]

theorem words_append_blank {b : Char} (h : isBlank b = true) (xs ys : List Char) :
    words (xs ++ b :: ys) = words xs ++ words ys := by
  unfold words
  rw [List.splitOnP_append_cons xs ys h, List.filter_append]

theorem words_cons_blank {b : Char} (h : isBlank b = true) (cs : List Char) :
    words (b :: cs) = words cs := by
  simpa using words_append_blank h [] cs

/-- A word: not empty, and without a blank.  Cutting at blanks gives it back unchanged. -/
structure IsWord (w : List Char) : Prop where
  ne_nil : w ≠ []
  not_blank : ∀ c ∈ w, isBlank c = false

namespace IsWord

variable {w : List Char}

theorem words_eq (h : IsWord w) : words w = [w] := by
  have hkept : (!w.isEmpty) = true := by
    rw [List.isEmpty_eq_false_iff.2 h.ne_nil]
    rfl
  rw [words, List.splitOnP_eq_singleton h.not_blank]
  exact List.filter_cons_of_pos hkept

/-- A word is kept whole where blanks are left out. -/
theorem filter_eq (h : IsWord w) : w.filter (fun c => !isBlank c) = w :=
  List.filter_eq_self.2 fun c hc => by rw [h.not_blank c hc]; rfl

theorem words_append (h : IsWord w) {b : Char} (hb : isBlank b = true) (rest : List Char) :
    words (w ++ b :: rest) = w :: words rest := by
  rw [words_append_blank hb, h.words_eq]
  rfl

end IsWord

theorem words_intercalate {b : Char} (hb : isBlank b = true) : ∀ {ws : List (List Char)},
    (∀ w ∈ ws, IsWord w) → words ([b].intercalate ws) = ws
  | [], _ => words_nil
  | [w], h => by
    rw [List.intercalate_singleton]
    exact (h w List.mem_cons_self).words_eq
  | w :: v :: ws, h => by
    obtain ⟨hw, hrest⟩ := List.forall_mem_cons.1 h
    rw [List.intercalate_cons_cons, List.append_assoc, List.singleton_append, hw.words_append hb,
      words_intercalate hb hrest]

end SerialEeprom.Text
