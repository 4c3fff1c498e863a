import LayeredConfig.Number.Binary64

/-!
# The shortest decimal of a double

Of all decimals that round to a double, the shortest is the one on the
coarsest decimal grid, and of two on that grid the nearer one. The search runs
from coarse grids to fine ones and tests the two neighbours of the exact value
in natural arithmetic. How digits are laid out is a separate record.
-/

namespace LayeredConfig.Number

/-- The decimals that round to a double, scaled to whole numbers: the exact
value and the ends of its rounding interval, as multiples of a common unit. -/
structure Rounding where
  /-- Lower end of the interval. -/
  low : Nat
  /-- The exact value. -/
  mid : Nat
  /-- Upper end of the interval. -/
  high : Nat
  /-- The power of two that the three count. -/
  unit : Int
  /-- The ends round to the value too. -/
  closed : Bool

/-- The rounding interval of a positive double. Below a power of two the
neighbour is half as far away. -/
def Rounding.of (significand : Nat) (exponent : Int) : Rounding :=
  let short := significand == Binary64.leastNormal && decide (Binary64.leastExponent < exponent)
  { low := 4 * significand - (if short then 1 else 2)
    mid := 4 * significand
    high := 4 * significand + 2
    unit := exponent - 2
    closed := significand % 2 == 0 }

/-- A decimal: its digits as a number, and the power of ten that they count. -/
structure Decimal where
  /-- The digits read as a number. -/
  digits : Nat
  /-- The power of ten. -/
  scale : Int
  deriving DecidableEq, Repr

/-- The multiple of `10 ^ scale` that rounds to the value and is nearest to it, if any does. -/
def onGrid? (r : Rounding) (scale : Int) : Option Nat :=
  let a := twoTo r.unit.toNat * tenTo (-scale).toNat
  let b := twoTo (-r.unit).toNat * tenTo scale.toNat
  let inside (k : Nat) : Bool :=
    if r.closed then decide (r.low * a ≤ k * b) && decide (k * b ≤ r.high * a)
    else decide (r.low * a < k * b) && decide (k * b < r.high * a)
  let below := r.mid * a / b
  let above := below + 1
  match inside below, inside above with
  | true, false => some below
  | false, true => some above
  | false, false => none
  | true, true =>
    let down := r.mid * a - below * b
    let up := above * b - r.mid * a
    if down < up then some below
    else if up < down then some above
    else if below % 2 == 0 then some below else some above

/-- Search the grids from a coarse one to finer ones. -/
def searchGrids (r : Rounding) : Nat → Int → Decimal
  | 0, scale => ⟨0, scale⟩
  | fuel + 1, scale =>
    match onGrid? r scale with
    | some digits => ⟨digits, scale⟩
    | none => searchGrids r fuel (scale - 1)

/-- The shortest decimal that rounds to a positive double. Seventeen digits
always suffice, and the search starts at most two grids above the first digit. -/
def shortest (significand : Nat) (exponent : Int) : Decimal :=
  let top : Int := (((significand.log2 : Int) + exponent + 1) * 30103).fdiv 100000 + 1
  searchGrids (Rounding.of significand exponent) 24 top

/-- How the digits of a number are laid out. -/
structure Layout where
  /-- The first place of the decimal point, counted from the first digit, that is written out. -/
  firstPlace : Int
  /-- The last place of the decimal point that is written out; beyond, an exponent follows. -/
  lastPlace : Option Int
  /-- Positive exponents carry their sign. -/
  signedExponent : Bool
  /-- The text of a value that is not a number. -/
  nan : String
  /-- The text of the positive infinity; the negative one has a minus in front. -/
  infinity : String

/-- Decimal digits of a natural number. -/
def natText (n : Nat) : List Char := Nat.toDigits 10 n

/-- The decimal text of an integer. -/
def intText (n : Int) : List Char :=
  if n < 0 then '-' :: natText n.natAbs else natText n.natAbs

/-- The place of the decimal point is written out in this layout. -/
def Layout.isPositional (layout : Layout) (place : Int) : Bool :=
  decide (layout.firstPlace ≤ place) &&
    match layout.lastPlace with
    | none => true
    | some last => decide (place ≤ last)

/-- Lay out a positive decimal. There is always a decimal point or an exponent. -/
def Layout.decimalText (layout : Layout) (d : Decimal) : List Char :=
  let digits := natText d.digits
  let place : Int := (digits.length : Int) + d.scale
  if layout.isPositional place then
    if 0 ≤ d.scale then digits ++ List.replicate d.scale.toNat '0' ++ ['.', '0']
    else if 0 < place then digits.take place.toNat ++ '.' :: digits.drop place.toNat
    else ['0', '.'] ++ List.replicate (-place).toNat '0' ++ digits
  else
    let exponent := place - 1
    let mark := if layout.signedExponent && decide (0 ≤ exponent) then ['e', '+'] else ['e']
    match digits with
    | [] => []
    | [digit] => digit :: mark ++ intText exponent
    | digit :: more => digit :: '.' :: more ++ mark ++ intText exponent

/-- The text of a double in a layout. -/
def Layout.text (layout : Layout) : Binary64 → String
  | .nan => layout.nan
  | .infinite negative => if negative then "-" ++ layout.infinity else layout.infinity
  | .finite negative significand exponent =>
    let body :=
      if significand = 0 then ['0', '.', '0']
      else layout.decimalText (shortest significand exponent)
    String.ofList (if negative then '-' :: body else body)

/-- Doubles in YAML and in rendered text. -/
def plainLayout : Layout :=
  ⟨-4, some 16, false, ".nan", ".inf"⟩

/-- Doubles in JSON. -/
def jsonLayout : Layout :=
  ⟨-4, some 16, true, "null", "null"⟩

/-- Doubles in messages about a value of the wrong type: every place is written out. -/
def messageLayout : Layout :=
  ⟨-400, none, false, "NaN", "inf"⟩

end LayeredConfig.Number
