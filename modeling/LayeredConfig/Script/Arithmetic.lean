import LayeredConfig.Number.Read
import LayeredConfig.Number.Shortest
import LayeredConfig.Script.Octets
import LayeredConfig.SortedMap

/-!
# Arithmetic expressions

Expressions over whole numbers of 64 bits that wrap around. A variable counts
by the number that its value writes, and nothing counts as zero.
-/

namespace LayeredConfig.Script

/-- The values of variables. -/
abbrev Values := SortedMap Octets Octets

namespace Arithmetic

/-- An operator between two numbers. -/
inductive Operator where
  /-- The sum. -/
  | plus
  /-- The difference. -/
  | minus
  /-- The product. -/
  | times
  /-- The quotient, towards zero. -/
  | quotient
  /-- The remainder of the quotient towards zero. -/
  | modulo
  /-- A shift to the left. -/
  | shiftLeft
  /-- A shift to the right that keeps the sign. -/
  | shiftRight
  /-- Less than. -/
  | less
  /-- Less than or equal to. -/
  | atMost
  /-- Greater than. -/
  | greater
  /-- Greater than or equal to. -/
  | atLeast
  /-- Equal to. -/
  | equal
  /-- Different from. -/
  | different
  /-- The bits of both. -/
  | bitAnd
  /-- The bits of one only. -/
  | bitXor
  /-- The bits of any. -/
  | bitOr
  deriving DecidableEq, Repr

/-- An expression. -/
inductive Expression where
  /-- A number. -/
  | number (value : Int64)
  /-- The number of a variable. -/
  | variable (name : Octets)
  /-- The negative of a number. -/
  | negative (inside : Expression)
  /-- One for zero, and zero for all else. -/
  | not (inside : Expression)
  /-- The bits that are missing. -/
  | complement (inside : Expression)
  /-- Two numbers with an operator between them. -/
  | binary (operator : Operator) (first second : Expression)
  /-- One if both are not zero. The second counts only if the first is not. -/
  | both (first second : Expression)
  /-- One if one of both is not zero. The second counts only if the first is zero. -/
  | any (first second : Expression)
  /-- One of two expressions, by a condition. -/
  | choice (condition first second : Expression)
  /-- Assign to a variable, possibly together with its old value. -/
  | assign (name : Octets) (operator : Option Operator) (value : Expression)
  deriving Repr

/-- A token of an expression. -/
inductive Token where
  /-- A number. -/
  | number (value : Int64)
  /-- A name. -/
  | name (text : Octets)
  /-- An operator or a parenthesis. -/
  | mark (text : String)
  deriving DecidableEq, Repr

/-- Why an expression has no value. -/
inductive Problem where
  /-- The text is no expression. -/
  | malformed (what : String)
  /-- The value of a variable is no number. -/
  | illegalNumber (text : Octets)
  deriving DecidableEq, Repr

/-- The marks, longer ones first. -/
def marks : List String :=
  [ "<<=", ">>=", "<<", ">>", "<=", ">=", "==", "!=", "&&", "||", "+=", "-=", "*=", "/=", "%=",
    "&=", "^=", "|=", "+", "-", "*", "/", "%", "<", ">", "=", "!", "~", "&", "^", "|", "?", ":",
    "(", ")" ]

/-- The largest number. -/
def largest : Int := 9223372036854775807

/-- The least number. -/
def least : Int := -9223372036854775808

/-- The number next to a whole number. -/
def nearest (n : Int) : Int64 := Int64.ofInt (max least (min largest n))

/-- The natural number that digits with a mark of their base write. -/
def natural? : Octets → Option Nat
  | '0' :: 'x' :: digits => Number.readNat? 16 digits
  | '0' :: 'X' :: digits => Number.readNat? 16 digits
  | '0' :: digits => if digits.isEmpty then some 0 else Number.readNat? 8 digits
  | digits => Number.readNat? 10 digits

/-- A text without the blanks and line breaks around it. -/
def withoutSpace (text : Octets) : Octets :=
  let space (c : Char) : Bool := c == ' ' || ('\t' ≤ c && c ≤ '\r')
  ((text.dropWhile space).reverse.dropWhile space).reverse

/-- The whole number that a text writes, with a sign. -/
def integer? (text : Octets) : Option Int :=
  match withoutSpace text with
  | '-' :: digits => (natural? digits).map fun n => -(n : Int)
  | '+' :: digits => (natural? digits).map Int.ofNat
  | digits => (natural? digits).map Int.ofNat

/-- The tokens of a text. -/
def tokens : Nat → Octets → Except Problem (List Token)
  | 0, _ => .ok []
  | _ + 1, [] => .ok []
  | fuel + 1, c :: rest =>
    if Octets.isBlank c || c == '\n' then tokens fuel rest
    else if c.isDigit then do
      let digits := (c :: rest).takeWhile Char.isAlphanum
      match natural? digits with
      | some n =>
        let more ← tokens fuel ((c :: rest).drop digits.length)
        .ok (.number (nearest n) :: more)
      | none => .error (.malformed "expecting EOF")
    else if Octets.startsName c then do
      let name := (c :: rest).takeWhile Octets.inName
      let more ← tokens fuel ((c :: rest).drop name.length)
      .ok (.name name :: more)
    else
      match marks.find? fun mark => mark.toList.isPrefixOf (c :: rest) with
      | some mark => do
        let more ← tokens fuel ((c :: rest).drop mark.length)
        .ok (.mark mark :: more)
      | none => do
        let more ← tokens fuel rest
        .ok (.mark (String.singleton c) :: more)

/-- The operators between two numbers with their rank. Higher ranks bind more tightly. -/
def operator? : String → Option (Operator × Nat)
  | "|" => some (.bitOr, 3)
  | "^" => some (.bitXor, 4)
  | "&" => some (.bitAnd, 5)
  | "==" => some (.equal, 6)
  | "!=" => some (.different, 6)
  | "<" => some (.less, 7)
  | "<=" => some (.atMost, 7)
  | ">" => some (.greater, 7)
  | ">=" => some (.atLeast, 7)
  | "<<" => some (.shiftLeft, 8)
  | ">>" => some (.shiftRight, 8)
  | "+" => some (.plus, 9)
  | "-" => some (.minus, 9)
  | "*" => some (.times, 10)
  | "/" => some (.quotient, 10)
  | "%" => some (.modulo, 10)
  | _ => none

/-- The operators that assign. -/
def assignment? : String → Option (Option Operator)
  | "=" => some none
  | "+=" => some (some .plus)
  | "-=" => some (some .minus)
  | "*=" => some (some .times)
  | "/=" => some (some .quotient)
  | "%=" => some (some .modulo)
  | "<<=" => some (some .shiftLeft)
  | ">>=" => some (some .shiftRight)
  | "&=" => some (some .bitAnd)
  | "^=" => some (some .bitXor)
  | "|=" => some (some .bitOr)
  | _ => none

mutual

/-- Read an assignment or a choice. -/
def readAssignment : Nat → List Token → Except Problem (Expression × List Token)
  | 0, _ => .error (.malformed "expecting primary")
  | fuel + 1, tokens => do
    match tokens with
    | .name name :: .mark mark :: rest =>
      match assignment? mark with
      | some operator =>
        let (value, rest) ← readAssignment fuel rest
        .ok (.assign name operator value, rest)
      | none => readChoice fuel tokens
    | _ => readChoice fuel tokens

/-- Read a choice by a condition. -/
def readChoice : Nat → List Token → Except Problem (Expression × List Token)
  | 0, _ => .error (.malformed "expecting primary")
  | fuel + 1, tokens => do
    let (condition, rest) ← readRank fuel 1 tokens
    match rest with
    | .mark "?" :: rest =>
      let (first, rest) ← readAssignment fuel rest
      match rest with
      | .mark ":" :: rest =>
        let (second, rest) ← readChoice fuel rest
        .ok (.choice condition first second, rest)
      | _ => .error (.malformed "expecting ':'")
    | rest => .ok (condition, rest)

/-- Read operators of at least a rank. -/
def readRank : Nat → Nat → List Token → Except Problem (Expression × List Token)
  | 0, _, _ => .error (.malformed "expecting primary")
  | fuel + 1, rank, tokens => do
    let (first, rest) ← readPrimary fuel tokens
    readOperators fuel rank first rest

/-- Read the operators of at least a rank behind an expression. -/
def readOperators : Nat → Nat → Expression → List Token → Except Problem (Expression × List Token)
  | 0, _, _, _ => .error (.malformed "expecting primary")
  | fuel + 1, rank, first, tokens =>
    match tokens with
    | .mark "||" :: rest =>
      if rank ≤ 1 then do
        let (second, rest) ← readRank fuel 2 rest
        readOperators fuel rank (.any first second) rest
      else .ok (first, tokens)
    | .mark "&&" :: rest =>
      if rank ≤ 2 then do
        let (second, rest) ← readRank fuel 3 rest
        readOperators fuel rank (.both first second) rest
      else .ok (first, tokens)
    | .mark mark :: rest =>
      match operator? mark with
      | some (operator, own) =>
        if rank ≤ own then do
          let (second, rest) ← readRank fuel (own + 1) rest
          readOperators fuel rank (.binary operator first second) rest
        else .ok (first, tokens)
      | none => .ok (first, tokens)
    | _ => .ok (first, tokens)

/-- Read a number, a variable, a sign or parentheses. -/
def readPrimary : Nat → List Token → Except Problem (Expression × List Token)
  | 0, _ => .error (.malformed "expecting primary")
  | fuel + 1, tokens => do
    match tokens with
    | .number value :: rest => .ok (.number value, rest)
    | .name name :: rest => .ok (.variable name, rest)
    | .mark "+" :: rest => readPrimary fuel rest
    | .mark "-" :: rest =>
      let (inside, rest) ← readPrimary fuel rest
      .ok (.negative inside, rest)
    | .mark "!" :: rest =>
      let (inside, rest) ← readPrimary fuel rest
      .ok (.not inside, rest)
    | .mark "~" :: rest =>
      let (inside, rest) ← readPrimary fuel rest
      .ok (.complement inside, rest)
    | .mark "(" :: rest =>
      let (inside, rest) ← readAssignment fuel rest
      match rest with
      | .mark ")" :: rest => .ok (inside, rest)
      | _ => .error (.malformed "expecting ')'")
    | _ => .error (.malformed "expecting primary")

end

/-- The expression of a text. -/
def read (text : Octets) : Except Problem Expression := do
  let tokens ← tokens (text.length + 1) text
  match ← readAssignment (8 * tokens.length + 16) tokens with
  | (expression, []) => .ok expression
  | _ => .error (.malformed "expecting EOF")

/-- The number of a truth value. -/
def truth (b : Bool) : Int64 := if b then 1 else 0

/-- Apply an operator. -/
def Operator.apply : Operator → Int64 → Int64 → Except Problem Int64
  | .plus, a, b => .ok (a + b)
  | .minus, a, b => .ok (a - b)
  | .times, a, b => .ok (a * b)
  | .quotient, a, b => if b = 0 then .error (.malformed "division by zero") else .ok (a / b)
  | .modulo, a, b => if b = 0 then .error (.malformed "division by zero") else .ok (a % b)
  | .shiftLeft, a, b => .ok (a <<< b)
  | .shiftRight, a, b => .ok (a >>> b)
  | .less, a, b => .ok (truth (a < b))
  | .atMost, a, b => .ok (truth (a ≤ b))
  | .greater, a, b => .ok (truth (b < a))
  | .atLeast, a, b => .ok (truth (b ≤ a))
  | .equal, a, b => .ok (truth (a == b))
  | .different, a, b => .ok (truth (a != b))
  | .bitAnd, a, b => .ok (a &&& b)
  | .bitXor, a, b => .ok (a ^^^ b)
  | .bitOr, a, b => .ok (a ||| b)

/-- The number of a variable. -/
def valueOf (values : Values) (name : Octets) : Except Problem Int64 :=
  match values.get? name with
  | none => .ok 0
  | some text =>
    if text.isEmpty then .ok 0
    else
      match integer? text with
      | some n => .ok (nearest n)
      | none => .error (.illegalNumber text)

/-- The octets that write a number. -/
def write (value : Int64) : Octets := Number.intText value.toInt

/-- The value of an expression, with the variables after its assignments. -/
def Expression.value (values : Values) : Expression → Except Problem (Int64 × Values)
  | .number n => .ok (n, values)
  | .variable name => do .ok (← valueOf values name, values)
  | .negative e => do
    let (n, values) ← e.value values
    .ok (-n, values)
  | .not e => do
    let (n, values) ← e.value values
    .ok (truth (n == 0), values)
  | .complement e => do
    let (n, values) ← e.value values
    .ok (~~~n, values)
  | .binary operator first second => do
    let (a, values) ← first.value values
    let (b, values) ← second.value values
    .ok (← operator.apply a b, values)
  | .both first second => do
    let (a, values) ← first.value values
    if a = 0 then .ok (0, values)
    else
      let (b, values) ← second.value values
      .ok (truth (b != 0), values)
  | .any first second => do
    let (a, values) ← first.value values
    if a ≠ 0 then .ok (1, values)
    else
      let (b, values) ← second.value values
      .ok (truth (b != 0), values)
  | .choice condition first second => do
    let (c, values) ← condition.value values
    if c ≠ 0 then first.value values else second.value values
  | .assign name operator value => do
    let (b, values) ← value.value values
    let n ←
      match operator with
      | none => .ok b
      | some operator => do operator.apply (← valueOf values name) b
    .ok (n, values.insert name (write n))

/-- The message of a problem with an expression. -/
def Problem.message (text : Octets) : Problem → String
  | .malformed what =>
    "arithmetic expression: " ++ what ++ ": \"" ++ String.ofList text ++ "\""
  | .illegalNumber value => "Illegal number: " ++ String.ofList value

/-- The text of the value of an expression, with the variables after it. -/
def evaluate (values : Values) (text : Octets) : Except Problem (Octets × Values) := do
  let expression ← read text
  let (n, values) ← expression.value values
  .ok (write n, values)

end Arithmetic

end LayeredConfig.Script
