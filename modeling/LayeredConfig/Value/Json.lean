import LayeredConfig.Number.Shortest
import LayeredConfig.Value.Basic

/-!
# JSON texts of values

A value becomes a JSON document when every mapping key has a JSON spelling.
The document has a compact text without blanks and an indented text, both
printed from the same structure.
-/

namespace LayeredConfig

/-- A JSON document. Object members keep their order and may repeat a name. -/
inductive Json where
  /-- The null literal. -/
  | null
  /-- A truth value. -/
  | bool (value : Bool)
  /-- A number. -/
  | number (value : Number)
  /-- A string. -/
  | string (text : String)
  /-- An array. -/
  | array (items : List Json)
  /-- An object. -/
  | object (members : List (String × Json))
  deriving Inhabited, Repr

/-- Why a mapping key has no JSON spelling. -/
inductive KeyFault where
  /-- The key is neither text nor a number nor a truth value. -/
  | notText
  /-- The key is an infinity or not a number. -/
  | notFinite
  deriving DecidableEq, Repr

/-- The message of a key fault. -/
def KeyFault.message : KeyFault → String
  | .notText => "key must be a string"
  | .notFinite => "float key must be finite (got NaN or +/-inf)"

namespace Json

/-- The spelling of a number. -/
def numberText : Number → String
  | .integer n => String.ofList (Number.intText n)
  | .float x => Number.jsonLayout.text x

/-- The member name that a mapping key becomes. -/
def memberName? : Value → Except KeyFault String
  | .string text => .ok text
  | .bool value => .ok (if value then "true" else "false")
  | .number (.integer n) => .ok (numberText (.integer n))
  | .number (.float x) => if x.isFinite then .ok (numberText (.float x)) else .error .notFinite
  | _ => .error .notText

mutual

/-- The document of a value; the first key without a spelling decides the fault. -/
def ofValue? : Value → Except KeyFault Json
  | .null => .ok .null
  | .bool value => .ok (.bool value)
  | .number (.integer n) => .ok (.number (.integer n))
  | .number (.float x) => .ok (if x.isFinite then .number (.float x) else .null)
  | .string text => .ok (.string text)
  | .sequence items =>
    match ofItems? items with
    | .error e => .error e
    | .ok items => .ok (.array items)
  | .mapping entries =>
    match ofEntries? entries with
    | .error e => .error e
    | .ok members => .ok (.object members)
  | .tagged tag value =>
    match ofValue? value with
    | .error e => .error e
    | .ok inner => .ok (.object [(Value.tagText tag, inner)])

/-- The documents of the items of a sequence. -/
def ofItems? : List Value → Except KeyFault (List Json)
  | [] => .ok []
  | value :: rest =>
    match ofValue? value with
    | .error e => .error e
    | .ok item =>
      match ofItems? rest with
      | .error e => .error e
      | .ok items => .ok (item :: items)

/-- The members of the entries of a mapping. -/
def ofEntries? : List (Value × Value) → Except KeyFault (List (String × Json))
  | [] => .ok []
  | (key, value) :: rest =>
    match memberName? key with
    | .error e => .error e
    | .ok name =>
      match ofValue? value with
      | .error e => .error e
      | .ok inner =>
        match ofEntries? rest with
        | .error e => .error e
        | .ok members => .ok ((name, inner) :: members)

end

/-- A hexadecimal digit, in lower case. -/
def hexDigit (n : Nat) : Char := if n < 10 then Char.ofNat (48 + n) else Char.ofNat (87 + n)

/-- How a character stands in a string literal. -/
def escapeChar (c : Char) : List Char :=
  if c = '"' then ['\\', '"']
  else if c = '\\' then ['\\', '\\']
  else if 0x20 ≤ c.toNat then [c]
  else if c = '\n' then ['\\', 'n']
  else if c = '\t' then ['\\', 't']
  else if c = '\r' then ['\\', 'r']
  else if c.toNat = 8 then ['\\', 'b']
  else if c.toNat = 12 then ['\\', 'f']
  else ['\\', 'u', '0', '0', hexDigit (c.toNat / 16), hexDigit (c.toNat % 16)]

/-- A string literal. -/
def literal (text : String) : List Char := '"' :: text.toList.flatMap escapeChar ++ ['"']

mutual

/-- The text without blanks outside string literals. -/
def compact : Json → List Char
  | .null => ['n', 'u', 'l', 'l']
  | .bool true => ['t', 'r', 'u', 'e']
  | .bool false => ['f', 'a', 'l', 's', 'e']
  | .number n => (numberText n).toList
  | .string text => literal text
  | .array [] => ['[', ']']
  | .array (item :: items) => '[' :: compact item ++ compactItems items ++ [']']
  | .object [] => ['\x7b', '\x7d']
  | .object ((name, value) :: members) =>
    '\x7b' :: literal name ++ ':' :: compact value ++ compactMembers members ++ ['\x7d']

/-- The items after the first, each with a comma in front. -/
def compactItems : List Json → List Char
  | [] => []
  | item :: items => ',' :: compact item ++ compactItems items

/-- The members after the first, each with a comma in front. -/
def compactMembers : List (String × Json) → List Char
  | [] => []
  | (name, value) :: members =>
    ',' :: literal name ++ ':' :: compact value ++ compactMembers members

end

/-- A line feed and the blanks of an indentation depth. -/
def newLine (depth : Nat) : List Char := '\n' :: List.replicate (2 * depth) ' '

mutual

/-- The text with one item a line, indented by two blanks a level. -/
def pretty (depth : Nat) : Json → List Char
  | .null => ['n', 'u', 'l', 'l']
  | .bool true => ['t', 'r', 'u', 'e']
  | .bool false => ['f', 'a', 'l', 's', 'e']
  | .number n => (numberText n).toList
  | .string text => literal text
  | .array [] => ['[', ']']
  | .array (item :: items) =>
    '[' :: newLine (depth + 1) ++ pretty (depth + 1) item ++ prettyItems (depth + 1) items ++
      newLine depth ++ [']']
  | .object [] => ['\x7b', '\x7d']
  | .object ((name, value) :: members) =>
    '\x7b' :: newLine (depth + 1) ++ literal name ++ ':' :: ' ' :: pretty (depth + 1) value ++
      prettyMembers (depth + 1) members ++ newLine depth ++ ['\x7d']

/-- The items after the first, each on a line of its own. -/
def prettyItems (depth : Nat) : List Json → List Char
  | [] => []
  | item :: items => ',' :: newLine depth ++ pretty depth item ++ prettyItems depth items

/-- The members after the first, each on a line of its own. -/
def prettyMembers (depth : Nat) : List (String × Json) → List Char
  | [] => []
  | (name, value) :: members =>
    ',' :: newLine depth ++ literal name ++ ':' :: ' ' :: pretty depth value ++
      prettyMembers depth members

end

end Json

end LayeredConfig
