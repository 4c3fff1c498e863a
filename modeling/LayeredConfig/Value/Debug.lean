import LayeredConfig.Number.Shortest
import LayeredConfig.Text.Printable
import LayeredConfig.Value.Basic

/-!
# The descriptive text of a value

A text that shows the kind of every part of a value. It exists for every
value, also for those that have no JSON text.
-/

namespace LayeredConfig.Value

/-- Hexadecimal digits of a number. -/
def hexText (n : Nat) : List Char := Nat.toDigits 16 n

/-- How a character stands in a quoted text. -/
def escapeChar (c : Char) : List Char :=
  if c = '\x00' then ['\\', '0']
  else if c = '\t' then ['\\', 't']
  else if c = '\r' then ['\\', 'r']
  else if c = '\n' then ['\\', 'n']
  else if c = '\\' then ['\\', '\\']
  else if c = '"' then ['\\', '"']
  else if Text.isPrintable c then [c]
  else ['\\', 'u', '\x7b'] ++ hexText c.toNat ++ ['\x7d']

/-- A text in quotes. -/
def quoted (text : String) : List Char := '"' :: text.toList.flatMap escapeChar ++ ['"']

/-- The text of a number. -/
def numberText : Number → String
  | .integer n => String.ofList (Number.intText n)
  | .float x => Number.plainLayout.text x

/-- The text of a truth value. -/
def boolText (b : Bool) : String := if b then "true" else "false"

/-- The text of a key, given its descriptive text: scalar keys stand without their kind. -/
def keyText (key : Value) (described : List Char) : List Char :=
  match key with
  | .bool b => (boolText b).toList
  | .number n => (numberText n).toList
  | .string text => quoted text
  | _ => described

mutual

/-- The descriptive text of a value. -/
def describe : Value → List Char
  | .null => "Null".toList
  | .bool b => "Bool(".toList ++ (boolText b).toList ++ [')']
  | .number n => "Number(".toList ++ (numberText n).toList ++ [')']
  | .string text => "String(".toList ++ quoted text ++ [')']
  | .sequence items => "Sequence [".toList ++ describeItems true items ++ [']']
  | .mapping entries => "Mapping \x7b".toList ++ describeEntries true entries ++ ['\x7d']
  | .tagged tag value =>
    "TaggedValue \x7b tag: ".toList ++ (tagText tag).toList ++ ", value: ".toList ++
      describe value ++ " \x7d".toList

/-- The texts of items, with commas between them. -/
def describeItems (isFirst : Bool) : List Value → List Char
  | [] => []
  | value :: rest =>
    (if isFirst then [] else [',', ' ']) ++ describe value ++ describeItems false rest

/-- The texts of entries, with commas between them. -/
def describeEntries (isFirst : Bool) : List (Value × Value) → List Char
  | [] => []
  | (key, value) :: rest =>
    (if isFirst then [] else [',', ' ']) ++ keyText key (describe key) ++ [':', ' '] ++ describe value ++
      describeEntries false rest

end

end LayeredConfig.Value
