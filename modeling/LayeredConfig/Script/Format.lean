import LayeredConfig.Number.Read
import LayeredConfig.Number.Shortest
import LayeredConfig.Script.Octets

/-!
# Formatted output

Escape sequences, and formats with directives for the arguments behind them. A
format is used again as long as arguments are left and it takes any.
-/

namespace LayeredConfig.Script.Format

/-- The character is an octal digit. -/
def isOctal (c : Char) : Bool := '0' ≤ c && c ≤ '7'

/-- The octet with an octal number. -/
def octal (digits : Octets) : Char :=
  Char.ofNat (digits.foldl (fun n d => n * 8 + (d.toNat - 48)) 0 % 256)

/-- The character of an escape sequence, from behind its backslash on. -/
def escape? (text : Octets) : Option (Char × Octets) :=
  match text with
  | '\\' :: rest => some ('\\', rest)
  | 'a' :: rest => some ('\x07', rest)
  | 'b' :: rest => some ('\x08', rest)
  | 'f' :: rest => some ('\x0c', rest)
  | 'n' :: rest => some ('\n', rest)
  | 'r' :: rest => some ('\r', rest)
  | 't' :: rest => some ('\t', rest)
  | 'v' :: rest => some ('\x0b', rest)
  | text =>
    let digits := (text.take 3).takeWhile isOctal
    if digits.isEmpty then none else some (octal digits, text.drop digits.length)

/-- A text with its escape sequences replaced, and whether one of them ends all
output. An octal number may start with a zero more. -/
def unescape : Nat → Octets → Octets × Bool
  | 0, text => (text, false)
  | _ + 1, [] => ([], false)
  | fuel + 1, '\\' :: rest =>
    match rest with
    | 'c' :: _ => ([], true)
    | '0' :: more =>
      let digits := (more.take 3).takeWhile isOctal
      let (text, ended) := unescape fuel (more.drop digits.length)
      (octal digits :: text, ended)
    | rest =>
      match escape? rest with
      | some (c, rest) =>
        let (text, ended) := unescape fuel rest
        (c :: text, ended)
      | none =>
        let (text, ended) := unescape fuel rest
        ('\\' :: text, ended)
  | fuel + 1, c :: rest =>
    let (text, ended) := unescape fuel rest
    (c :: text, ended)

/-- What is written for words: the words with blanks between, and a line feed
unless an escape sequence ends the output. -/
def echo (words : List Octets) : Octets :=
  let (lineFeed, words) :=
    match words with
    | ['-', 'n'] :: rest => (false, rest)
    | words => (true, words)
  let joined := [' '].intercalate words
  let (text, ended) := unescape (joined.length + 1) joined
  if lineFeed && !ended then text ++ ['\n'] else text

/-- A directive of a format. -/
structure Directive where
  /-- The signs behind the percent sign. -/
  flags : Octets
  /-- The least width. -/
  width : Option Int
  /-- The precision. -/
  precision : Option Int
  /-- What the argument is written as. -/
  conversion : Char
  deriving DecidableEq, Repr

namespace Directive

/-- The flag is set. -/
def has (d : Directive) (flag : Char) : Bool := d.flags.contains flag

/-- The written text stands on the left. -/
def onLeft (d : Directive) : Bool := d.has '-' || d.width.any (· < 0)

/-- Fill a text up to the width. Zeros go behind the sign. -/
def fill (d : Directive) (zeros : Bool) (sign text : Octets) : Octets :=
  let missing := (d.width.getD 0).natAbs - (sign.length + text.length)
  if d.onLeft then sign ++ text ++ List.replicate missing ' '
  else if zeros && d.has '0' then sign ++ List.replicate missing '0' ++ text
  else List.replicate missing ' ' ++ sign ++ text

/-- The sign in front of a number. -/
def sign (d : Directive) (negative : Bool) : Octets :=
  if negative then ['-'] else if d.has '+' then ['+'] else if d.has ' ' then [' '] else []

/-- The precision, if it counts. -/
def places? (d : Directive) : Option Nat :=
  match d.precision with
  | some (Int.ofNat n) => some n
  | _ => none

/-- Digits, as many as the precision asks for. -/
def digits (d : Directive) (text : Octets) : Octets :=
  match d.places? with
  | some n => List.replicate (n - text.length) '0' ++ text
  | none => text

/-- Write a whole number. -/
def integer (d : Directive) (n : Int) : Octets :=
  let zeros := d.places?.isNone
  match d.conversion with
  | 'o' => d.fill zeros (if d.has '#' then ['0'] else []) (d.digits (Nat.toDigits 8 (wrapped n)))
  | 'x' =>
    d.fill zeros (if d.has '#' then ['0', 'x'] else []) (d.digits (Nat.toDigits 16 (wrapped n)))
  | 'X' =>
    d.fill zeros (if d.has '#' then ['0', 'X'] else [])
      ((d.digits (Nat.toDigits 16 (wrapped n))).map Char.toUpper)
  | 'u' => d.fill zeros [] (d.digits (Number.natText (wrapped n)))
  | _ => d.fill zeros (d.sign (n < 0)) (d.digits (Number.natText n.natAbs))
where
  /-- A negative number counts from the end of the numbers of 64 bits. -/
  wrapped (n : Int) : Nat := (n % twoTo 64).toNat

/-- Write a text. -/
def text (d : Directive) (text : Octets) : Octets :=
  d.fill false [] (match d.places? with
    | some n => text.take n
    | none => text)

/-- Write a number with a fixed count of places behind the point. -/
def fixed (d : Directive) (x : Binary64) : Octets :=
  match x with
  | .nan => d.fill false [] "nan".toList
  | .infinite negative => d.fill false (d.sign negative) "inf".toList
  | .finite negative significand exponent =>
    let places := d.places?.getD 6
    let scaled := significand * tenTo places
    let whole :=
      if 0 ≤ exponent then scaled * twoTo exponent.toNat
      else Binary64.roundDiv scaled (twoTo (-exponent).toNat)
    let digits := Number.natText whole
    let digits := List.replicate (places + 1 - digits.length) '0' ++ digits
    let cut := digits.length - places
    let point := if places = 0 then [] else '.' :: digits.drop cut
    d.fill true (d.sign negative) (digits.take cut ++ point)

end Directive

/-- How far a format has been followed. -/
structure Progress where
  /-- The arguments that are left. -/
  left : List Octets
  /-- What was written. -/
  written : Octets
  /-- Complaints about arguments, the latest first. -/
  complaints : List Octets
  /-- Nothing more is written. -/
  ended : Bool
  /-- The format itself is at fault. -/
  refused : Bool
  deriving DecidableEq, Repr

namespace Progress

/-- Write more. -/
def add (p : Progress) (text : Octets) : Progress := { p with written := p.written ++ text }

/-- Take the next argument, or nothing. -/
def next (p : Progress) : Octets × Progress :=
  match p.left with
  | [] => ([], p)
  | first :: rest => (first, { p with left := rest })

/-- Complain about an argument. -/
def complain (p : Progress) (argument : Octets) (problem : String) : Progress :=
  { p with complaints := (argument ++ problem.toList) :: p.complaints }

/-- Give up at a directive that has no meaning. -/
def refuse (p : Progress) (directive : Octets) : Progress :=
  { (p.complain directive ": invalid directive") with ended := true, refused := true }

/-- Check that an argument was read to its end. -/
def check (p : Progress) (argument rest : Octets) : Progress :=
  if rest.isEmpty then p
  else if rest.length = argument.length then p.complain argument ": expected numeric value"
  else p.complain argument ": not completely converted"

/-- The whole number that a text starts with, and the rest. -/
def leadingInteger (text : Octets) : Int × Octets :=
  let body := text.dropWhile fun c => c == ' ' || ('\t' ≤ c && c ≤ '\r')
  let (negative, body) :=
    match body with
    | '-' :: rest => (true, rest)
    | '+' :: rest => (false, rest)
    | rest => (false, rest)
  let (base, marks) :=
    match body with
    | '0' :: x :: d :: _ =>
      if (x == 'x' || x == 'X') && ((Number.digitValue? d).any (· < 16)) then (16, 2) else (8, 0)
    | '0' :: _ => (8, 0)
    | _ => (10, 0)
  let digits := (body.drop marks).takeWhile fun c => (Number.digitValue? c).any (· < base)
  match Number.readNat? base digits with
  | none => (0, text)
  | some n => (if negative then -(n : Int) else n, (body.drop marks).drop digits.length)

/-- The next argument as a whole number. Behind a quote it is that of a character. -/
def nextInteger (p : Progress) : Int × Progress :=
  let (argument, p) := p.next
  match argument with
  | '"' :: c :: _ => (c.toNat, p)
  | '\'' :: c :: _ => (c.toNat, p)
  | _ =>
    let (n, rest) := leadingInteger argument
    (n, p.check argument rest)

/-- The next argument as a number. -/
def nextNumber (p : Progress) : Binary64 × Progress :=
  let (argument, p) := p.next
  let zero := Binary64.zero false
  if argument.isEmpty then (zero, p)
  else
    match Number.readDecimal? argument with
    | some x => (x, p)
    | none => (zero, p.check argument argument)

/-- A width or a precision: a number of the format, or of an argument. -/
def size (p : Progress) (format : Octets) : Option Int × Octets × Progress :=
  match format with
  | '*' :: rest =>
    let (n, p) := p.nextInteger
    (some n, rest, p)
  | format =>
    let digits := format.takeWhile Char.isDigit
    ((Number.readNat? 10 digits).map Int.ofNat, format.drop digits.length, p)

/-- Follow the directive behind a percent sign. -/
def directive (p : Progress) (format : Octets) : Octets × Progress :=
  let isFlag (c : Char) : Bool := "#-+ 0".toList.contains c
  let flags := format.takeWhile isFlag
  let (width, rest, p) := p.size (format.drop flags.length)
  let (precision, rest, p) :=
    match rest with
    | '.' :: rest =>
      let (n, rest, p) := p.size rest
      (some (n.getD 0), rest, p)
    | rest => (none, rest, p)
  match rest with
  | [] => ([], p.refuse ('%' :: format))
  | conversion :: rest =>
    let d : Directive := ⟨flags, width, precision, conversion⟩
    if "diouxX".toList.contains conversion then
      let (n, p) := p.nextInteger
      (rest, p.add (d.integer n))
    else if "fF".toList.contains conversion then
      let (x, p) := p.nextNumber
      (rest, p.add (d.fixed x))
    else if conversion = 'c' then
      let (argument, p) := p.next
      (rest, p.add (d.fill false [] (argument.take 1)))
    else if conversion = 's' then
      let (argument, p) := p.next
      (rest, p.add (d.text argument))
    else if conversion = 'b' then
      let (argument, p) := p.next
      let (text, ended) := unescape (argument.length + 1) argument
      (rest, { (p.add (d.text text)) with ended := ended })
    else (rest, p.refuse ('%' :: format.take (format.length - rest.length)))

/-- Follow a format once. -/
def follow : Nat → Octets → Progress → Progress
  | 0, _, p => p
  | _ + 1, [], p => p
  | fuel + 1, c :: rest, p =>
    if p.ended then p
    else if c = '\\' then
      match escape? rest with
      | some (c, rest) => follow fuel rest (p.add [c])
      | none => follow fuel rest (p.add ['\\'])
    else if c = '%' then
      match rest with
      | '%' :: rest => follow fuel rest (p.add ['%'])
      | rest =>
        let (rest, p) := p.directive rest
        follow fuel rest p
    else follow fuel rest (p.add [c])

/-- Follow a format as often as it takes arguments. -/
def repeated (format : Octets) : Nat → Progress → Progress
  | 0, p => p
  | n + 1, p =>
    let q := follow (format.length + 1) format p
    if q.ended || q.left.isEmpty || q.left.length == p.left.length then q
    else repeated format n q

end Progress

/-- What is written for a format and its arguments, the complaints in order, and
a status: two for a format at fault, one for an argument. -/
def printf (format : Octets) (arguments : List Octets) : Octets × List Octets × Nat :=
  let p := Progress.repeated format (arguments.length + 1) ⟨arguments, [], [], false, false⟩
  (p.written, p.complaints.reverse, if p.refused then 2 else if p.complaints.isEmpty then 0 else 1)

end LayeredConfig.Script.Format
