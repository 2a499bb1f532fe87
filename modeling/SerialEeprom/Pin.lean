/-
# Pins

A pin of the board is named by its port and its number within the port, and written `P0.26`.
The peripheral knows pins by one flat number, thirty-two to a port (`Pin.select`).

The two ways to name a pin do not agree everywhere.  A `Pin` may hold any two bytes, and then pins
of different ports can have one flat number: the numbers of a port are meant to stay below
thirty-two, but nothing in the type says so.  Which pins are told apart by their flat numbers is
proved where it matters, for the pins of a set-up.

`Pin.parse` reads the written form, with the letter optional and in either case.  It reads only
pins that exist, on one of two ports with thirty-two pins each, so what was read is safe to select.
The length is checked first, in bytes: four of them are enough for a port and a number of two digits
with the dot between them, and a text that is longer is refused whatever it says.  Behind that check
a part may still be anything, be it empty or signed, and each fault has its own error, which quotes
the text or the part it is about.

What exactly the written forms are, and which pin each of them names, is said without the reader in
the module on the text of pins.
-/
import SerialEeprom.Text.Numeral
import SerialEeprom.Text.Quoted

namespace SerialEeprom

open SerialEeprom.Text

/-- A pin of the board: its port, and its number within the port.  The bounds on the two are not in
the type; they are checked where a pin is read. -/
structure Pin where
  port : UInt8
  number : UInt8
  deriving DecidableEq, Repr, Inhabited

namespace Pin

/-- How many ports there are. -/
def portCount : Nat := 2

/-- How many pins a port has. -/
def pinsPerPort : Nat := 32

/-- Pins are ordered by port, and within a port by number. -/
instance : Ord Pin where
  compare a b := (compare a.port b.port).then (compare a.number b.number)

/-- The flat number by which the peripheral selects a pin.  The sum cannot leave thirty-two bits,
whatever the two bytes are (`toNat_select`). -/
def select (p : Pin) : UInt32 :=
  p.port.toUInt32 * 32 + p.number.toUInt32

/-- The written form, as `Pin.parse` reads it.  The number takes at least two digits, so that a
column of pins lines up; the port takes as many as it needs. -/
def text (p : Pin) : String :=
  let digits := String.ofList ((Nat.toDigits 10 p.number.toNat).leftpad 2 '0')
  s!"P{p.port.toNat}." ++ digits

theorem toNat_select (p : Pin) : p.select.toNat = p.port.toNat * 32 + p.number.toNat := by
  have h₁ := p.port.toNat_lt
  have h₂ := p.number.toNat_lt
  simp only [select, UInt32.toNat_add, UInt32.toNat_mul, UInt8.toNat_toUInt32, UInt32.reduceToNat]
  omega

/-! ## 1. Reading a pin -/

/-- Why a text names no pin.  The faults that concern the whole text keep it, and those that concern
one part keep that part or its value. -/
inductive ParseError where
  | tooLong (source : String)
  | noDot (source : String)
  | extraDot (source : String)
  | emptyPart (source : String)
  | badPort (part : String) (cause : Numeral.Fault)
  | badNumber (part : String) (cause : Numeral.Fault)
  | portTooBig (port : Nat)
  | numberTooBig (number : Nat)
  deriving DecidableEq, Repr

/-- The wording of a fault. -/
def ParseError.message : ParseError → String
  | .tooLong source => "String too long for GPIO port.pin: " ++ Quoted.encode source
  | .noDot source => "Need a '.' in GPIO port.pin: " ++ Quoted.encode source
  | .extraDot source => "At most one '.' in GPIO port.pin: " ++ Quoted.encode source
  | .emptyPart source => "Empty port or pin in GPIO port.pin: " ++ Quoted.encode source
  | .badPort part cause => "invalid GPIO port: " ++ part ++ ": " ++ cause.message
  | .badNumber part cause => "invalid GPIO pin: " ++ part ++ ": " ++ cause.message
  | .portTooBig port => s!"invalid GPIO port: {port} (too big)"
  | .numberTooBig number => s!"invalid GPIO pin: {number} (too big)"

/-- A text without the letter that may stand in front of it.  Only one letter is dropped. -/
def dropLetter : List Char → List Char
  | 'P' :: rest => rest
  | 'p' :: rest => rest
  | rest => rest

/-- How many bytes a text takes in UTF-8.  The length of a pin is checked in bytes, before any part
of it is looked at. -/
def byteLength : List Char → Nat
  | [] => 0
  | c :: cs => c.utf8Size + byteLength cs

/-- Read one part of a pin as a byte.  A part that is a byte but too great for the board is refused
later, with another error. -/
def parsePart (fault : String → Numeral.Fault → ParseError) (part : List Char) :
    Except ParseError Nat :=
  (Numeral.read 10 256 part).mapError (fault (String.ofList part))

/-- Read the two parts of a pin, and check that there is such a pin.  Both parts are read before
either is checked against the board, and the port is checked first. -/
def ofParts (port number : List Char) : Except ParseError Pin := do
  let p ← parsePart .badPort port
  let n ← parsePart .badNumber number
  if portCount ≤ p then throw (.portTooBig p)
  if pinsPerPort ≤ n then throw (.numberTooBig n)
  pure ⟨UInt8.ofNat p, UInt8.ofNat n⟩

/-- Read a pin: at most four bytes behind the letter, with one dot between two numbers. -/
def parse (source : String) : Except ParseError Pin :=
  let body := dropLetter source.toList
  if 4 < byteLength body then .error (.tooLong source)
  else
    match body.splitOn '.' with
    | [port, number] =>
      if port = [] ∨ number = [] then .error (.emptyPart source) else ofParts port number
    | _ :: _ :: _ => .error (.extraDot source)
    | _ => .error (.noDot source)

end Pin

end SerialEeprom
