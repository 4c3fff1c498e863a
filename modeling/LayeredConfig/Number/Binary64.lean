/-!
# Binary floating point numbers

A double is kept as the exact quantity it stands for: a significand below
2^53 times a power of two. Reading a decimal rounds its exact value to the
nearest double, a tie going to the even significand.
-/

namespace LayeredConfig

/-- A power of two. -/
def twoTo (n : Nat) : Nat := Nat.pow 2 n

/-- A power of ten. -/
def tenTo (n : Nat) : Nat := Nat.pow 10 n

/-- A double precision number. A finite one is `significand * 2 ^ exponent`. -/
inductive Binary64 where
  /-- Not a number. -/
  | nan
  /-- An infinity. -/
  | infinite (negative : Bool)
  /-- A finite number, with the sign of zero kept. -/
  | finite (negative : Bool) (significand : Nat) (exponent : Int)
  deriving DecidableEq, Repr, Inhabited

namespace Binary64

/-- Significands of normal numbers start here. -/
def leastNormal : Nat := twoTo 52

/-- The exponent of the subnormal numbers. -/
def leastExponent : Int := -1074

/-- The exponent of the greatest numbers. -/
def greatestExponent : Int := 971

/-- Zero with a sign. -/
def zero (negative : Bool) : Binary64 := .finite negative 0 leastExponent

/-- The number is neither an infinity nor not a number. -/
def isFinite : Binary64 → Bool
  | .finite _ _ _ => true
  | _ => false

/-- Equality of numbers: zeros are equal whatever their sign, and a value that
is not a number equals itself, as needed where it serves as a key. -/
def sameKey : Binary64 → Binary64 → Bool
  | .nan, .nan => true
  | .infinite a, .infinite b => a == b
  | .finite a m e, .finite b n f => m == n && ((m == 0) || (a == b && e == f))
  | _, _ => false

/-- The quotient rounded to the nearest natural number, a tie going to the even one. -/
def roundDiv (numerator denominator : Nat) : Nat :=
  let q := numerator / denominator
  let r := numerator % denominator
  if 2 * r < denominator then q
  else if denominator < 2 * r then q + 1
  else if q % 2 == 0 then q else q + 1

/-- The quotient of two naturals divided by a power of two, as a rounded significand. -/
def significandAt (numerator denominator : Nat) (exponent : Int) : Nat :=
  if 0 ≤ exponent then roundDiv numerator (denominator * twoTo exponent.toNat)
  else roundDiv (numerator * twoTo (-exponent).toNat) denominator

/-- The power of two at which a positive quotient has a significand of 53 bits,
or the least exponent when the quotient is smaller than every normal number. -/
def exponentOf (numerator denominator : Nat) : Int :=
  let guess : Int := (numerator.log2 : Int) - denominator.log2 - 52
  let reaches : Bool :=
    if 0 ≤ guess then decide (denominator * twoTo guess.toNat * leastNormal ≤ numerator)
    else decide (denominator * leastNormal ≤ numerator * twoTo (-guess).toNat)
  max leastExponent (if reaches then guess else guess - 1)

/-- The double nearest to a positive quotient. -/
def ofQuotient (negative : Bool) (numerator denominator : Nat) : Binary64 :=
  let exponent := exponentOf numerator denominator
  let significand := significandAt numerator denominator exponent
  let carried := significand == 2 * leastNormal
  let significand := if carried then leastNormal else significand
  let exponent := if carried then exponent + 1 else exponent
  if greatestExponent < exponent then .infinite negative
  else .finite negative significand exponent

/-- The double nearest to `digits * 10 ^ scale`. Quantities far outside the
range are decided by their order of magnitude alone. -/
def ofDecimal (negative : Bool) (digits : Nat) (scale : Int) : Binary64 :=
  if digits = 0 then zero negative
  else
    let magnitude : Int := ((Nat.toDigits 10 digits).length : Int) + scale
    if 310 < magnitude then .infinite negative
    else if magnitude < -326 then zero negative
    else if 0 ≤ scale then ofQuotient negative (digits * tenTo scale.toNat) 1
    else ofQuotient negative digits (tenTo (-scale).toNat)

end Binary64

end LayeredConfig
