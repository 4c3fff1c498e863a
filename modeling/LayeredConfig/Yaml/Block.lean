import LayeredConfig.Yaml.Cursor

/-!
# Block scalars

The text of a literal or folded block: its indentation is that of its first
line unless the header gives one, and the header also says what becomes of the
line breaks at its end.
-/

namespace LayeredConfig.Yaml.Block

/-- What becomes of the line breaks at the end of a block. -/
inductive Chomping where
  /-- The last line break stays. -/
  | clip
  /-- No line break stays. -/
  | strip
  /-- All line breaks stay. -/
  | keep
  deriving DecidableEq, Repr

/-- The header of a block. -/
structure Header where
  /-- What becomes of the line breaks at the end. -/
  chomping : Chomping
  /-- The indentation relative to the block around, when it is given. -/
  increment : Option Nat

/-- Read a chomping sign. -/
def chompingSign? : Char → Option Chomping
  | '+' => some .keep
  | '-' => some .strip
  | _ => none

/-- Read an indentation digit. -/
def readIncrement (c : Cursor) : Except SyntaxError (Option Nat × Cursor) :=
  if c.here = '0' then c.fail "found an indentation indicator equal to 0"
  else if c.here.isDigit then .ok (some (c.here.toNat - 48), c.skip 1)
  else .ok (none, c)

/-- Read a header: a sign and a digit in either order, each optional. -/
def readHeader (c : Cursor) : Except SyntaxError (Header × Cursor) :=
  match chompingSign? c.here with
  | some chomping => do
    let (increment, c) ← readIncrement (c.skip 1)
    pure (⟨chomping, increment⟩, c)
  | none => do
    let (increment, c) ← readIncrement c
    match increment, chompingSign? c.here with
    | some n, some chomping => pure (⟨chomping, some n⟩, c.skip 1)
    | increment, _ => pure (⟨.clip, increment⟩, c)

/-- Read the indentation and the empty lines in front of a line. Without a known
indentation (zero) the deepest column seen is reported. -/
def readBreaks (indent : Nat) : Nat → Cursor → Nat → List Char →
    Except SyntaxError (Nat × List Char × Cursor)
  | 0, c, deepest, breaks => .ok (deepest, breaks, c)
  | fuel + 1, c, deepest, breaks =>
    let open_ (c : Cursor) : Bool := indent == 0 || decide (c.column < indent)
    let spaces := c.rest.takeWhile (· == ' ')
    let count := if indent == 0 then spaces.length else min spaces.length (indent - c.column)
    let c := c.skip count
    let deepest := max deepest c.column
    if open_ c && c.here == '\t' then
      c.fail "found a tab character where an indentation space is expected"
    else if isBreak c.here then
      let (line, c) := c.readBreak
      readBreaks indent fuel c deepest (breaks ++ line)
    else .ok (deepest, breaks, c)

/-- What a block has gathered. -/
structure Gathered where
  /-- The text, last character first. -/
  text : List Char
  /-- The line break behind the last line. -/
  lastBreak : List Char
  /-- The empty lines behind it. -/
  emptyLines : List Char
  /-- The last line starts with a blank. -/
  blankStart : Bool

/-- Read the lines at the indentation. In a folded block a line break between
two lines that start without a blank becomes a space, or nothing before empty lines. -/
def readLines (folded : Bool) (indent : Nat) :
    Nat → Cursor → Gathered → Except SyntaxError (Gathered × Cursor)
  | 0, c, g => .ok (g, c)
  | fuel + 1, c, g =>
    if c.column = indent ∧ c.here ≠ endMark then do
      let blank := isInlineBlank c.here
      let joint :=
        if folded && g.lastBreak == ['\n'] && !g.blankStart && !blank then
          if g.emptyLines.isEmpty then [' '] else []
        else g.lastBreak
      let (line, c) := c.spanWhile fun _ => true
      let text := line.reverse ++ g.emptyLines.reverse ++ joint.reverse ++ g.text
      let (lastBreak, c) := c.readBreak
      let (_, emptyLines, c) ← readBreaks indent (c.rest.length + 1) c 0 []
      readLines folded indent fuel c ⟨text, lastBreak, emptyLines, blank⟩
    else .ok (g, c)

/-- Read a block scalar behind its indicator, inside a block of some indentation. -/
def read (folded : Bool) (outer : Int) (c : Cursor) : Except SyntaxError (List Char × Cursor) := do
  let (header, c) ← readHeader c
  let c := (c.skipWhile isInlineBlank).skipComment
  if !(isBreak c.here || c.here == endMark) then
    c.fail "did not find expected comment or line break"
  else
    let c := c.skipBreak
    let given : Nat :=
      match header.increment with
      | some n => if 0 ≤ outer then outer.toNat + n else n
      | none => 0
    let (deepest, emptyLines, c) ← readBreaks given (c.rest.length + 1) c 0 []
    let indent := if given = 0 then max (max deepest (outer + 1).toNat) 1 else given
    let (g, c) ← readLines folded indent (c.rest.length + 1) c ⟨[], [], emptyLines, false⟩
    let tail :=
      match header.chomping with
      | .strip => []
      | .clip => g.lastBreak
      | .keep => g.lastBreak ++ g.emptyLines
    pure (g.text.reverse ++ tail, c)

end LayeredConfig.Yaml.Block
