/-
# Records as text

A value with named fields can be shown on one line, `Name { a: 1, b: 2 }`, or spread over
several, one field a line, four spaces deeper at each level and a comma behind every field.

What is shown is first taken apart into names and plain texts (`Shown`), and only then laid out.  So
the two layouts cannot differ in what they show, and a value says once what its fields are called
and in which order they stand.  The one-line form is used in the log, where a message is a line; the
spread form is for looking at a device as a whole, whose set-up has fields with fields.

A record without fields is shown by its name alone, in both layouts.
-/
namespace SerialEeprom.Text

mutual

/-- A value as it is shown: a plain text, or a name with fields.  A plain text is taken as it is, in
both layouts. -/
inductive Shown where
  | atom (text : String)
  | record (name : String) (fields : Fields)

/-- The named fields of a record, in order. -/
inductive Fields where
  | none
  | more (name : String) (value : Shown) (rest : Fields)

end

/-- The record `name` with the given plain fields in order. -/
def Fields.ofAtoms : List (String × String) → Fields
  | [] => .none
  | (name, text) :: rest => .more name (.atom text) (ofAtoms rest)

mutual

/-- A value on one line. -/
def Shown.compact : Shown → String
  | .atom text => text
  | .record name .none => name
  | .record name (.more field value rest) =>
    name ++ " \x7b " ++ field ++ ": " ++ value.compact ++ rest.compact ++ " \x7d"

/-- Further fields on the same line, each with its separator in front. -/
def Fields.compact : Fields → String
  | .none => ""
  | .more field value rest => ", " ++ field ++ ": " ++ value.compact ++ rest.compact

end

/-- The start of a line at the given depth. -/
def indent (depth : Nat) : String :=
  String.ofList (List.replicate (4 * depth) ' ')

mutual

/-- A value over several lines, whose first line is already indented.  The lines behind it are
indented here, the last as far as the first. -/
def Shown.spread (depth : Nat) : Shown → String
  | .atom text => text
  | .record name .none => name
  | .record name (.more field value rest) =>
    name ++ " \x7b\n" ++ indent (depth + 1) ++ field ++ ": " ++ value.spread (depth + 1) ++ ",\n"
      ++ rest.spread (depth + 1) ++ indent depth ++ "\x7d"

/-- Further fields, one to a line. -/
def Fields.spread (depth : Nat) : Fields → String
  | .none => ""
  | .more field value rest =>
    indent depth ++ field ++ ": " ++ value.spread depth ++ ",\n" ++ rest.spread depth

end

end SerialEeprom.Text
