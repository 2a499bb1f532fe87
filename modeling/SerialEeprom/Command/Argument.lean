/-
# Arguments

How the command line and the lines of a session write numbers, bytes and pins.  A number is
decimal, or hexadecimal behind `0x`; a byte is hexadecimal, and `0x` may be left out.

A number is read once, below `2 ^ 32` (`number`), and then narrowed to what it is for: sixteen bits
for sizes and addresses of the contents (`number16`), eight for the address on the bus
(`busAddress`).  So there are two ways to be too large, with different errors: a number that does
not fit in thirty-two bits is no number, and one that fits there but is too wide for its place is
refused for that.  Narrowing refuses and never cuts.

The mark `0x` is taken off before anything is read, and in one place (`hexDigits?`).  Behind it only
digits are looked for, which may have a plus sign in front as anywhere else, so `0x` alone is a
number with nothing in it.

An error keeps the text that was given, whole, and not the part that was found wrong.  The list of
bytes ends at the first that cannot be read, and it is that one which is named.
-/
import SerialEeprom.Pin

namespace SerialEeprom.Command

open SerialEeprom.Text

/-- Why an argument cannot be read, with the text as it was given.  A pin brings an error of its
own, which has the text in it. -/
inductive ArgumentError where
  | number (source : String) (cause : Numeral.Fault)
  /-- A number beyond sixteen bits. -/
  | wide (source : String)
  | byte (source : String) (cause : Numeral.Fault)
  /-- A bus address beyond eight bits. -/
  | wideAddress (source : String)
  | pin (cause : Pin.ParseError)
  deriving DecidableEq, Repr

/-- The wording of an error. -/
def ArgumentError.message : ArgumentError → String
  | .number source cause => "invalid number " ++ Quoted.encode source ++ ": " ++ cause.message
  | .wide source => "number " ++ Quoted.encode source ++ " too big (max 0xffff)"
  | .byte source cause => "invalid byte " ++ Quoted.encode source ++ ": " ++ cause.message
  | .wideAddress source => "bus address " ++ Quoted.encode source ++ " too big"
  | .pin cause => cause.message

/-- The digits behind the mark of a hexadecimal number, if it stands there.  The letter may be in
either case, but nothing may stand in front of the nought. -/
def hexDigits? : List Char → Option (List Char)
  | '0' :: 'x' :: digits => some digits
  | '0' :: 'X' :: digits => some digits
  | _ => none

/-- Read a number below `2 ^ 32`, in the base that its mark says. -/
def number (source : String) : Except ArgumentError UInt32 :=
  let value :=
    match hexDigits? source.toList with
    | some digits => Numeral.read 16 0x100000000 digits
    | none => Numeral.read 10 0x100000000 source.toList
  match value with
  | .ok n => .ok (UInt32.ofNat n)
  | .error cause => .error (.number source cause)

/-- Read a number below `2 ^ 16`, in the same two ways.  What was no number stays the same error;
only a number can be too wide. -/
def number16 (source : String) : Except ArgumentError UInt16 := do
  let n ← number source
  if n ≤ 0xffff then pure n.toUInt16 else throw (.wide source)

/-- Read a bus address of eight bits; whether seven suffice is for the set-up to say. -/
def busAddress (source : String) : Except ArgumentError UInt8 := do
  let n ← number source
  if n ≤ 0xff then pure n.toUInt8 else throw (.wideAddress source)

/-- Read a pin. -/
def pin (source : String) : Except ArgumentError Pin :=
  (Pin.parse source).mapError .pin

/-- Read a byte, in hexadecimal with the mark or without.  It may have zeros in front. -/
def byte (token : List Char) : Except ArgumentError UInt8 :=
  match Numeral.read 16 256 ((hexDigits? token).getD token) with
  | .ok n => .ok (UInt8.ofNat n)
  | .error cause => .error (.byte (String.ofList token) cause)

/-- Read bytes, up to the first that cannot be read.  No tokens give no bytes. -/
def bytes (tokens : List (List Char)) : Except ArgumentError (List UInt8) :=
  tokens.mapM byte

end SerialEeprom.Command
