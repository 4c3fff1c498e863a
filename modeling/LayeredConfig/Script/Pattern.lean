import LayeredConfig.Script.Octets

/-!
# Patterns

A pattern describes a set of texts. Whether a text belongs to it is decided
character by character: what is left of a pattern behind a character is again
a pattern, and the end belongs to it if the pattern has the empty text.
-/

namespace LayeredConfig.Script

/-- A set of characters: ranges, or all characters outside of them. -/
structure CharSet where
  /-- The characters outside of the ranges are meant. -/
  negated : Bool
  /-- The first and the last character of each range. -/
  ranges : List (Char × Char)
  deriving DecidableEq, Repr

namespace CharSet

/-- The character belongs to the set. -/
def has (s : CharSet) (c : Char) : Bool :=
  s.negated != s.ranges.any fun range => range.1 ≤ c && c ≤ range.2

/-- A single character. -/
def single (c : Char) : CharSet := ⟨false, [(c, c)]⟩

/-- Every character. -/
def all : CharSet := ⟨true, []⟩

/-- The ranges of a named class of characters. -/
def classRanges : String → List (Char × Char)
  | "digit" => [('0', '9')]
  | "alpha" => [('a', 'z'), ('A', 'Z')]
  | "alnum" => [('a', 'z'), ('A', 'Z'), ('0', '9')]
  | "upper" => [('A', 'Z')]
  | "lower" => [('a', 'z')]
  | "space" => [('\t', '\r'), (' ', ' ')]
  | "blank" => [('\t', '\t'), (' ', ' ')]
  | "punct" => [('!', '/'), (':', '@'), ('[', '\x60'), ('\x7b', '~')]
  | "xdigit" => [('0', '9'), ('a', 'f'), ('A', 'F')]
  | "cntrl" => [('\x00', '\x1f'), ('\x7f', '\x7f')]
  | "print" => [(' ', '~')]
  | "graph" => [('!', '~')]
  | _ => []

end CharSet

/-- A pattern. -/
inductive Pattern where
  /-- No text. -/
  | never
  /-- The empty text. -/
  | empty
  /-- One character of a set. -/
  | one (set : CharSet)
  /-- A text of one pattern and then a text of another. -/
  | seq (first second : Pattern)
  /-- A text of one of two patterns. -/
  | either (first second : Pattern)
  /-- Any number of texts of a pattern. -/
  | many (inside : Pattern)
  deriving DecidableEq, Repr

namespace Pattern

/-- The empty text belongs to the pattern. -/
def hasEmpty : Pattern → Bool
  | .never => false
  | .empty => true
  | .one _ => false
  | .seq p q => p.hasEmpty && q.hasEmpty
  | .either p q => p.hasEmpty || q.hasEmpty
  | .many _ => true

/-- One pattern and then another. -/
def followedBy (p q : Pattern) : Pattern :=
  if p = .never ∨ q = .never then .never else if p = .empty then q else .seq p q

/-- One of two patterns. -/
def orElse (p q : Pattern) : Pattern :=
  if p = .never then q else if q = .never ∨ p = q then p else .either p q

/-- What is left of the pattern behind a character. -/
def behind (c : Char) : Pattern → Pattern
  | .never => .never
  | .empty => .never
  | .one set => if set.has c then .empty else .never
  | .seq p q =>
    let continued := (p.behind c).followedBy q
    if p.hasEmpty then continued.orElse (q.behind c) else continued
  | .either p q => (p.behind c).orElse (q.behind c)
  | .many p => (p.behind c).followedBy (.many p)

/-- The text belongs to the pattern. -/
def fits : Pattern → List Char → Bool
  | p, [] => p.hasEmpty
  | p, c :: rest => (p.behind c).fits rest

/-- The lengths of the beginnings of a text that belong to the pattern, ascending. -/
def fittingLengths (p : Pattern) (length : Nat) : List Char → List Nat
  | [] => if p.hasEmpty then [length] else []
  | c :: rest =>
    let longer := if p = .never then [] else (p.behind c).fittingLengths (length + 1) rest
    if p.hasEmpty then length :: longer else longer

/-- The pattern read from its end. -/
def reversed : Pattern → Pattern
  | .seq p q => .seq q.reversed p.reversed
  | .either p q => .either p.reversed q.reversed
  | .many p => .many p.reversed
  | p => p

/-- Any text. -/
def anything : Pattern := .many (.one .all)

/-- A given text. -/
def exactly : List Char → Pattern
  | [] => .empty
  | c :: rest => (one (.single c)).followedBy (exactly rest)

/-- Some text of the pattern stands somewhere in the text. -/
def occursIn (p : Pattern) (text : List Char) : Bool :=
  (anything.followedBy (p.followedBy anything)).fits text

/-- A character may be marked as quoted; then it has no meaning of its own. -/
abbrev Marked := Char × Bool

/-- Read the members of a set in brackets, up to the closing bracket. -/
def bracketMembers : Nat → Bool → List (Char × Char) → List Marked →
    Option (List (Char × Char) × List Marked)
  | 0, _, _, _ => none
  | fuel + 1, first, ranges, text =>
    match text with
    | [] => none
    | (c, quoted) :: rest =>
      if c = ']' ∧ quoted = false ∧ first = false then some (ranges, rest)
      else if c = '[' ∧ quoted = false ∧ (rest.head?).map Prod.fst = some ':' then
        let name := (rest.drop 1).takeWhile fun m => m.1.isAlpha
        let after := (rest.drop 1).drop name.length
        if after.take 2 |>.map Prod.fst |> (· == [':', ']']) then
          bracketMembers fuel false
            (CharSet.classRanges (String.ofList (name.map Prod.fst)) ++ ranges) (after.drop 2)
        else bracketMembers fuel false (('[', '[') :: ranges) rest
      else
        match rest with
        | ('-', false) :: (last, lastQuoted) :: more =>
          if last = ']' ∧ lastQuoted = false then bracketMembers fuel false ((c, c) :: ranges) rest
          else bracketMembers fuel false ((c, last) :: ranges) more
        | _ => bracketMembers fuel false ((c, c) :: ranges) rest

/-- Read a set in brackets, from behind the opening bracket on. -/
def bracket? (text : List Marked) : Option (CharSet × List Marked) :=
  let negated := match text with
    | (c, quoted) :: _ => (c == '!' || c == '^') && !quoted
    | [] => false
  let members := if negated then text.drop 1 else text
  (bracketMembers (members.length + 1) true [] members).map fun (ranges, rest) =>
    (⟨negated, ranges⟩, rest)

/-- The pattern of a text in which a star stands for any text, a question mark
for any character, and brackets for a character of a set. -/
def ofWildcards : Nat → List Marked → Pattern
  | 0, _ => .empty
  | _ + 1, [] => .empty
  | fuel + 1, (c, quoted) :: rest =>
    let plain (set : CharSet) : Pattern := (Pattern.one set).followedBy (ofWildcards fuel rest)
    if quoted then plain (.single c)
    else
      match c with
      | '*' => anything.followedBy (ofWildcards fuel rest)
      | '?' => plain .all
      | '[' =>
        match bracket? rest with
        | some (set, rest) => (Pattern.one set).followedBy (ofWildcards fuel rest)
        | none => plain (.single c)
      | '\\' =>
        match rest with
        | (next, _) :: rest => (Pattern.one (.single next)).followedBy (ofWildcards fuel rest)
        | [] => plain (.single c)
      | c => plain (.single c)

/-- The pattern of a text with wildcards. -/
def wildcards (text : List Marked) : Pattern := ofWildcards (text.length + 1) text

/-- The text has a character with a meaning of its own. -/
def hasWildcards (text : List Marked) : Bool :=
  text.any fun (c, quoted) => !quoted && (c == '*' || c == '?' || c == '[')

end Pattern

end LayeredConfig.Script
