import LayeredConfig.Number.Read
import LayeredConfig.Script.Pattern

/-!
# Regular expressions

Expressions for lines: branches of a pattern that may be bound to the start or
the end of a line. In the extended form the signs for repetition, grouping and
choice stand for themselves; in the basic form a backslash stands in front.
-/

namespace LayeredConfig.Script

/-- One branch of an expression. -/
structure Branch where
  /-- It is bound to the start of the line. -/
  atStart : Bool
  /-- The texts that it stands for. -/
  pattern : Pattern
  /-- It is bound to the end of the line. -/
  atEnd : Bool
  deriving DecidableEq, Repr

/-- An expression is a choice of branches. -/
abbrev LinePattern := List Branch

namespace LinePattern

/-- Some number of texts of a pattern, at least and at most as many as given. -/
def repeated (p : Pattern) (least : Nat) (most : Option Nat) : Pattern :=
  let required := (List.replicate least p).foldr Pattern.followedBy .empty
  match most with
  | none => required.followedBy (.many p)
  | some most =>
    (List.replicate (most - least) p).foldr
      (fun p rest => Pattern.orElse .empty (p.followedBy rest)) .empty |> required.followedBy

/-- The characters without quotes. -/
def unmarked (text : List Char) : List Pattern.Marked := text.map fun c => (c, false)

/-- A set in brackets, where a backslash stands for itself. -/
def set? (text : List Char) : Option (CharSet × List Char) :=
  (Pattern.bracket? (unmarked text)).map fun (set, rest) => (set, rest.map Prod.fst)

/-- A sign with a meaning at the start of the text, and the rest. -/
def sign? (extended : Bool) (text : List Char) : Option (Char × List Char) :=
  match text with
  | '\\' :: c :: rest => if !extended && "()|+?\x7b\x7d".toList.contains c then some (c, rest) else none
  | c :: rest => if extended && "()|+?\x7b\x7d".toList.contains c then some (c, rest) else none
  | [] => none

/-- The bounds of a repetition, from behind the opening brace on. -/
def bounds? (extended : Bool) (text : List Char) : Option (Nat × Option Nat × List Char) :=
  let least := text.takeWhile Char.isDigit
  let behind := text.drop least.length
  let (most, behind) :=
    match behind with
    | ',' :: rest =>
      let digits := rest.takeWhile Char.isDigit
      (Number.readNat? 10 digits, rest.drop digits.length)
    | rest => (Number.readNat? 10 least, rest)
  match sign? extended behind with
  | some ('\x7d', rest) => some ((Number.readNat? 10 least).getD 0, most, rest)
  | _ => none

mutual

/-- Read a choice of patterns. -/
def readChoice (extended : Bool) : Nat → List Char → Option (Pattern × List Char)
  | 0, _ => none
  | fuel + 1, text => do
    let (first, rest) ← readSequence extended fuel text
    match sign? extended rest with
    | some ('|', rest) =>
      let (second, rest) ← readChoice extended fuel rest
      some (first.orElse second, rest)
    | _ => some (first, rest)

/-- Read patterns one after the other. -/
def readSequence (extended : Bool) : Nat → List Char → Option (Pattern × List Char)
  | 0, _ => none
  | fuel + 1, text =>
    match text, sign? extended text with
    | [], _ => some (.empty, [])
    | _, some ('|', _) => some (.empty, text)
    | _, some (')', _) => some (.empty, text)
    | _, _ => do
      let (atom, rest) ← readAtom extended fuel text
      let (piece, rest) ← readRepetition extended fuel atom rest
      let (more, rest) ← readSequence extended fuel rest
      some (piece.followedBy more, rest)

/-- Read the repetitions behind a pattern. -/
def readRepetition (extended : Bool) : Nat → Pattern → List Char → Option (Pattern × List Char)
  | 0, _, _ => none
  | fuel + 1, p, text =>
    match text with
    | '*' :: rest => readRepetition extended fuel (.many p) rest
    | text =>
      match sign? extended text with
      | some ('+', rest) => readRepetition extended fuel (p.followedBy (.many p)) rest
      | some ('?', rest) => readRepetition extended fuel (Pattern.orElse .empty p) rest
      | some ('\x7b', rest) =>
        match bounds? extended rest with
        | some (least, most, rest) => readRepetition extended fuel (repeated p least most) rest
        | none => some (p, text)
      | _ => some (p, text)

/-- Read a group, a set or a character. -/
def readAtom (extended : Bool) : Nat → List Char → Option (Pattern × List Char)
  | 0, _ => none
  | fuel + 1, text =>
    match sign? extended text with
    | some ('(', rest) => do
      let (inside, rest) ← readChoice extended fuel rest
      match sign? extended rest with
      | some (')', rest) => some (inside, rest)
      | _ => none
    | _ =>
      match text with
      | [] => none
      | '.' :: rest => some (.one .all, rest)
      | '[' :: rest => do
        let (set, rest) ← set? rest
        some (.one set, rest)
      | '\\' :: c :: rest => some (.one (.single c), rest)
      | c :: rest => some (.one (.single c), rest)

end

/-- The texts of the branches, divided at the signs for choice outside of groups. -/
def branchTexts (extended : Bool) : Nat → Nat → List Char → List (List Char)
  | 0, _, text => [text]
  | _ + 1, _, [] => [[]]
  | fuel + 1, depth, text =>
    let keep (count depth : Nat) : List (List Char) :=
      match branchTexts extended fuel depth (text.drop count) with
      | [] => [text.take count]
      | branch :: more => (text.take count ++ branch) :: more
    match sign? extended text with
    | some (c, rest) =>
      let length := text.length - rest.length
      if c = '|' ∧ depth = 0 then [] :: branchTexts extended fuel 0 rest
      else keep length (if c = '(' then depth + 1 else if c = ')' then depth - 1 else depth)
    | none => keep (if text.head? = some '\\' then 2 else 1) depth

/-- The branch of a text. -/
def branch? (extended : Bool) (text : List Char) : Option Branch :=
  let atStart := text.head? = some '^'
  let text := if atStart then text.drop 1 else text
  let atEnd := text.getLast? = some '$' && text.dropLast.getLast? != some '\\'
  let text := if atEnd then text.dropLast else text
  match text with
  | '*' :: rest =>
    (readChoice extended (4 * rest.length + 8) rest).map fun (p, _) =>
      ⟨atStart, Pattern.followedBy (.one (.single '*')) p, atEnd⟩
  | text =>
    match readChoice extended (4 * text.length + 8) text with
    | some (p, []) => some ⟨atStart, p, atEnd⟩
    | _ => none

/-- The expression of a text. -/
def read? (extended : Bool) (text : List Char) : Option LinePattern :=
  (branchTexts extended (text.length + 1) 0 text).mapM (branch? extended)

/-- The expression that stands for a text itself. -/
def verbatim (text : List Char) : LinePattern := [⟨false, Pattern.exactly text, false⟩]

/-- The expression bound to the whole line. -/
def whole (e : LinePattern) : LinePattern := e.map fun b => ⟨true, b.pattern, true⟩

/-- The branch has a text in the line. -/
def branchOccurs (line : List Char) (b : Branch) : Bool :=
  let front := if b.atStart then b.pattern else Pattern.anything.followedBy b.pattern
  (if b.atEnd then front else front.followedBy Pattern.anything).fits line

/-- The expression has a text in the line. -/
def occursIn (e : LinePattern) (line : List Char) : Bool := e.any (branchOccurs line)

/-- The length of the longest text of the expression at a place of a line. -/
def longestAt? (e : LinePattern) (place : Nat) (rest : List Char) : Option Nat :=
  (e.filterMap fun b =>
    if b.atStart && place != 0 then none
    else
      ((b.pattern.fittingLengths 0 rest).filter fun n => !b.atEnd || n == rest.length).getLast?).max?

/-- The texts of the expression in a line, from the left, each as long as it can be. -/
def occurrences (e : LinePattern) : Nat → Nat → List Char → List (List Char)
  | 0, _, _ => []
  | _ + 1, _, [] => []
  | fuel + 1, place, c :: rest =>
    match longestAt? e place (c :: rest) with
    | some (n + 1) =>
      (c :: rest).take (n + 1) :: occurrences e fuel (place + n + 1) ((c :: rest).drop (n + 1))
    | _ => occurrences e fuel (place + 1) rest

end LinePattern

end LayeredConfig.Script
