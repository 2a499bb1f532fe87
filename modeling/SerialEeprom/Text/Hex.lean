/-
# Hexadecimal text

Everything that is shown in base sixteen is shown in lower-case digits, and in one of two ways.

* A number stands in a column: it is filled up with zeros on the left to a width, and takes more
  room than that if it needs it (`Hex.padded`).  Addresses take four digits, offsets eight.
* A byte takes exactly two digits (`Hex.byte`).  Bytes follow one another with nothing between
  them (`Hex.run`), or with one space between neighbours (`Hex.spaced`).

A dump puts the two together.  It has one line for each sixteen bytes begun, and on it the offset
of the first of them and then the bytes, with a gap after the eighth; and one line more, with the
number of bytes alone.  The lines are made row by row (`Hexdump.rows`), by recursion on the bytes
that are left.  A program would rather write them in one pass and decide at each byte, from its
place, what goes around it; that this is the same text is proved where dumps are
(`Hexdump.text_eq_pass`).

The lines have no line feed in them: whoever prints them puts one behind each.
-/
namespace SerialEeprom.Text

/-! ## 1. Numbers and bytes -/

namespace Hex

/-- A number in base sixteen, filled up with zeros on the left to at least `width` digits. -/
def padded (width n : Nat) : List Char :=
  (Nat.toDigits 16 n).leftpad width '0'

/-- A byte as two digits, the high half first. -/
def byte (b : UInt8) : List Char :=
  [Nat.digitChar (b.toNat / 16), Nat.digitChar (b.toNat % 16)]

/-- Bytes one after the other, with nothing between them. -/
def run (bytes : List UInt8) : List Char :=
  bytes.flatMap byte

/-- Bytes with one space between neighbours.  They can be read back as arguments, word by word. -/
def spaced (bytes : List UInt8) : List Char :=
  [' '].intercalate (bytes.map byte)

/-- The text of a number padded to `width` digits. -/
def text (width n : Nat) : String :=
  String.ofList (padded width n)

end Hex

/-! ## 2. Dumps -/

namespace Hexdump

/-- How many bytes stand on a line. -/
def width : Nat := 16

/-- A byte with the space before it. -/
def cell (b : UInt8) : List Char :=
  ' ' :: Hex.byte b

/-- One line: the offset, the first eight bytes, a gap, the rest.  A line of eight bytes or fewer
has no gap at its end. -/
def row (offset : Nat) (bytes : List UInt8) : List Char :=
  let left := bytes.take 8
  let right := bytes.drop 8
  Hex.padded 8 offset ++ [' '] ++ left.flatMap cell ++
    if right = [] then [] else ' ' :: right.flatMap cell

/-- The lines that hold bytes, the first of which has the given offset.  All are full but the last,
which has what is left. -/
def rows (offset : Nat) (bytes : List UInt8) : List (List Char) :=
  match bytes with
  | [] => []
  | b :: rest =>
    row offset ((b :: rest).take width) :: rows (offset + width) ((b :: rest).drop width)
termination_by bytes.length
decreasing_by
  simp only [width, List.length_drop, List.length_cons]
  omega

/-- The whole dump, line by line.  The closing line stands alone if there are no bytes. -/
def lines (bytes : List UInt8) : List (List Char) :=
  rows 0 bytes ++ [Hex.padded 8 bytes.length]

end Hexdump

end SerialEeprom.Text
