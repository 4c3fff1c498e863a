import LayeredConfig.Number.Binary64

/-!
# Reading numbers

Digits in a base, and decimals with an optional fraction and exponent. A
decimal needs a digit before the exponent, and an exponent needs a digit.
-/

namespace LayeredConfig.Number

/-- The value of a digit in bases up to sixteen. -/
def digitValue? (c : Char) : Option Nat :=
  if '0' ≤ c ∧ c ≤ '9' then some (c.toNat - 48)
  else if 'a' ≤ c ∧ c ≤ 'f' then some (c.toNat - 87)
  else if 'A' ≤ c ∧ c ≤ 'F' then some (c.toNat - 55)
  else none

/-- Read digits in a base after a number already read. -/
def readDigitsFrom? (base : Nat) : Nat → List Char → Option Nat
  | value, [] => some value
  | value, c :: rest =>
    match digitValue? c with
    | some digit => if digit < base then readDigitsFrom? base (value * base + digit) rest else none
    | none => none

/-- Read a natural number: at least one digit, and nothing else. -/
def readNat? (base : Nat) (text : List Char) : Option Nat :=
  if text.isEmpty then none else readDigitsFrom? base 0 text

/-- An integer may carry a sign. -/
def readSigned? (base : Nat) : List Char → Option Int
  | '+' :: rest => (readNat? base rest).map Int.ofNat
  | '-' :: rest => (readNat? base rest).map fun n => -(Int.ofNat n)
  | text => (readNat? base text).map Int.ofNat

/-- The exponent part of a decimal: none, or a mark with a signed integer. -/
def readExponent? : List Char → Option Int
  | [] => some 0
  | c :: rest => if c = 'e' ∨ c = 'E' then readSigned? 10 rest else none

/-- Read a decimal without sign. -/
def readUnsignedDecimal? (negative : Bool) (text : List Char) : Option Binary64 :=
  let whole := text.takeWhile Char.isDigit
  let rest := text.dropWhile Char.isDigit
  let (fraction, rest) :=
    match rest with
    | '.' :: more => (more.takeWhile Char.isDigit, more.dropWhile Char.isDigit)
    | _ => ([], rest)
  match readNat? 10 (whole ++ fraction), readExponent? rest with
  | some digits, some exponent =>
    some (Binary64.ofDecimal negative digits (exponent - fraction.length))
  | _, _ => none

/-- Read a decimal. -/
def readDecimal? : List Char → Option Binary64
  | '-' :: rest => readUnsignedDecimal? true rest
  | '+' :: rest => readUnsignedDecimal? false rest
  | text => readUnsignedDecimal? false text

end LayeredConfig.Number
