import LayeredConfig.Number.Read
import LayeredConfig.Value.Basic

/-!
# Plain scalars

Which value a scalar without quotes stands for: null, a truth value, an
integer, a floating point number, or else the text itself. Digits after a
leading zero are text. An integer beyond 64 bits that still fits 128 bits has
no value at all.
-/

namespace LayeredConfig.Yaml

/-- What a scalar text stands for among the integers. -/
inductive IntegerReading where
  /-- The text is no integer. -/
  | none
  /-- An integer of 64 bits. -/
  | value (n : Int)
  /-- An integer that only 128 bits can hold. -/
  | tooWide
  deriving DecidableEq, Repr

/-- Drop a literal start. -/
def dropStart? (start text : List Char) : Option (List Char) :=
  if start.isPrefixOf text then some (text.drop start.length) else none

/-- The text starts with a sign. -/
def startsWithSign : List Char → Bool
  | '+' :: _ => true
  | '-' :: _ => true
  | _ => false

/-- Zeros in front of further digits: text, not a number. -/
def isPaddedDigits (text : List Char) : Bool :=
  let digits :=
    match text with
    | '-' :: rest => rest
    | '+' :: rest => rest
    | _ => text
  match digits with
  | '0' :: c :: rest => (c :: rest).all Char.isDigit
  | _ => false

/-- The first reading that a list of attempts gives. -/
def firstSome {α : Type} : List (Option α) → Option α
  | [] => none
  | some a :: _ => some a
  | none :: rest => firstSome rest

/-- Read a non-negative integer below a bound. -/
def readUnsignedInteger? (bound : Nat) (text : List Char) : Option Int :=
  let below (n : Option Nat) : Option Int :=
    match n with
    | some n => if n < bound then some (Int.ofNat n) else none
    | none => none
  let body :=
    match text with
    | '+' :: rest => rest
    | _ => text
  let marked (mark : List Char) (base : Nat) : Option (Option Int) :=
    match dropStart? mark body with
    | some rest => if startsWithSign rest then some none else (below (Number.readNat? base rest)).map some
    | none => none
  match firstSome [marked ['0', 'x'] 16, marked ['0', 'o'] 8, marked ['0', 'b'] 2] with
  | some reading => reading
  | none =>
    if startsWithSign body || isPaddedDigits text then none else below (Number.readNat? 10 body)

/-- Read an integer from a least one up to, and without, a bound. -/
def readNegativeInteger? (least bound : Int) (text : List Char) : Option Int :=
  let within (n : Option Int) : Option Int :=
    match n with
    | some n => if least ≤ n && n < bound then some n else none
    | none => none
  let marked (mark : List Char) (base : Nat) : Option Int :=
    match dropStart? ('-' :: mark) text with
    | some rest => within ((Number.readNat? base rest).map fun n => -(Int.ofNat n))
    | none => none
  match firstSome [marked ['0', 'x'] 16, marked ['0', 'o'] 8, marked ['0', 'b'] 2] with
  | some n => some n
  | none => if isPaddedDigits text then none else within (Number.readSigned? 10 text)

/-- Read an integer. -/
def readInteger (text : List Char) : IntegerReading :=
  match readUnsignedInteger? (twoTo 64) text with
  | some n => .value n
  | none =>
    match readNegativeInteger? (-(twoTo 63)) (twoTo 63) text with
    | some n => .value n
    | none =>
      match readUnsignedInteger? (twoTo 128) text with
      | some _ => .tooWide
      | none =>
        match readNegativeInteger? (-(twoTo 127)) (twoTo 127) text with
        | some _ => .tooWide
        | none => .none

/-- Read a floating point number. A decimal too great for one is none. -/
def readFloat? (text : List Char) : Option Binary64 :=
  let body :=
    match text with
    | '+' :: rest => rest
    | _ => text
  if text.head? = some '+' && startsWithSign body then none
  else if body = ".inf".toList || body = ".Inf".toList || body = ".INF".toList then
    some (.infinite false)
  else if text = "-.inf".toList || text = "-.Inf".toList || text = "-.INF".toList then
    some (.infinite true)
  else if text = ".nan".toList || text = ".NaN".toList || text = ".NAN".toList then some .nan
  else
    match Number.readDecimal? body with
    | some x => if x.isFinite then some x else none
    | none => none

/-- Read a truth value. -/
def readBool? (text : List Char) : Option Bool :=
  if text = "true".toList || text = "True".toList || text = "TRUE".toList then some true
  else if text = "false".toList || text = "False".toList || text = "FALSE".toList then some false
  else none

/-- The text spells null. The empty text is a matter of its own. -/
def isNullWord (text : List Char) : Bool :=
  text = "null".toList || text = "Null".toList || text = "NULL".toList || text = "~".toList

/-- The value of a plain scalar, unless it is an integer that is too wide. -/
def plainValue? (text : List Char) : Option Value :=
  if text.isEmpty || isNullWord text then some .null
  else
    match readBool? text with
    | some b => some (.bool b)
    | none =>
      match readInteger text with
      | .value n => some (.number (.integer n))
      | .tooWide => none
      | .none =>
        if isPaddedDigits text then some (.string (String.ofList text))
        else
          match readFloat? text with
          | some x => some (.number (.float x))
          | none => some (.string (String.ofList text))

end LayeredConfig.Yaml
