/-!
# Positions in a document

A cursor is the text still to be read and where it stands. Line breaks are
read as a whole, so that a carriage return with a line feed counts as one.
-/

namespace LayeredConfig.Yaml

/-- Why a text is no document. -/
structure SyntaxError where
  /-- What was found or not found. -/
  problem : String
  /-- The line and the column, from zero, where the text itself is at fault. -/
  place : Option (Nat × Nat)
  deriving DecidableEq, Repr, Inhabited

/-- The message of a syntax error, counting from one. -/
def SyntaxError.message (e : SyntaxError) : String :=
  match e.place with
  | some (line, column) =>
    e.problem ++ " at line " ++ toString (line + 1) ++ " column " ++ toString (column + 1)
  | none => e.problem

/-- A place in a text. -/
structure Cursor where
  /-- The text from here on. -/
  rest : List Char
  /-- Characters before. -/
  index : Nat
  /-- Line breaks before. -/
  line : Nat
  /-- Characters before on the line. -/
  column : Nat
  deriving Repr

/-- The character ends a line. -/
def isBreak (c : Char) : Bool :=
  c == '\n' || c == '\r' || c == '\x85' || c == '\u2028' || c == '\u2029'

/-- The character is a blank within a line. -/
def isInlineBlank (c : Char) : Bool := c == ' ' || c == '\t'

/-- The character that stands for the end of the text. No document holds it. -/
def endMark : Char := '\x00'

/-- The character separates: a blank, a line break or the end. -/
def isSeparator (c : Char) : Bool := isInlineBlank c || isBreak c || c == endMark

/-- The character may stand in a name of an anchor, a directive or a tag handle. -/
def isNameChar (c : Char) : Bool := c.isAlphanum || c == '_' || c == '-'

/-- The character may stand in a document. -/
def isAllowed (c : Char) : Bool :=
  let n := c.toNat
  n == 0x09 || n == 0x0A || n == 0x0D || (0x20 ≤ n && n ≤ 0x7E) || n == 0x85 ||
    (0xA0 ≤ n && n ≤ 0xFFFD) || 0x10000 ≤ n

namespace Cursor

/-- The start of a text. -/
def start (text : List Char) : Cursor := ⟨text, 0, 0, 0⟩

/-- The character some places ahead, or the end mark. -/
def peek (c : Cursor) (ahead : Nat) : Char := (c.rest[ahead]?).getD endMark

/-- The character at the cursor, or the end mark. -/
def here (c : Cursor) : Char := c.peek 0

/-- Fail at the cursor. -/
def fail {α : Type} (c : Cursor) (problem : String) : Except SyntaxError α :=
  .error ⟨problem, some (c.line, c.column)⟩

/-- Move over characters of the line. -/
def skip (c : Cursor) (count : Nat) : Cursor :=
  { c with rest := c.rest.drop count, index := c.index + count, column := c.column + count }

/-- The characters of the line that pass a test, from the cursor on. -/
def spanWhile (c : Cursor) (test : Char → Bool) : List Char × Cursor :=
  let found := c.rest.takeWhile fun x => test x && !isBreak x
  (found, c.skip found.length)

/-- Move over the characters of the line that pass a test. -/
def skipWhile (c : Cursor) (test : Char → Bool) : Cursor := (c.spanWhile test).2

/-- Move over a byte order mark in front of the text. It takes up a column, so
that what stands behind it on the line is indented by one. -/
def skipOrderMark (c : Cursor) : Cursor :=
  if c.index = 0 ∧ c.here = '\uFEFF' then c.skip 1 else c

/-- Move over a comment, up to the end of the line. -/
def skipComment (c : Cursor) : Cursor :=
  if c.here = '#' then c.skipWhile fun _ => true else c

/-- Move over a line break. -/
def skipBreak (c : Cursor) : Cursor :=
  if c.here = '\r' ∧ c.peek 1 = '\n' then
    { c with rest := c.rest.drop 2, index := c.index + 2, line := c.line + 1, column := 0 }
  else if isBreak c.here then
    { c with rest := c.rest.drop 1, index := c.index + 1, line := c.line + 1, column := 0 }
  else c

/-- What a line break contributes to a scalar: a line feed, or the Unicode
line or paragraph separator itself. -/
def readBreak (c : Cursor) : List Char × Cursor :=
  if c.here = '\u2028' ∨ c.here = '\u2029' then ([c.here], c.skipBreak)
  else if isBreak c.here then (['\n'], c.skipBreak)
  else ([], c)

/-- A mark of three characters at the start of a line, with a separator behind it. -/
def atDocumentMark (c : Cursor) (mark : Char) : Bool :=
  c.column == 0 && c.here == mark && c.peek 1 == mark && c.peek 2 == mark && isSeparator (c.peek 3)

/-- The cursor stands at the start or the end mark of a document. -/
def atDocumentBoundary (c : Cursor) : Bool := c.atDocumentMark '-' || c.atDocumentMark '.'

end Cursor

end LayeredConfig.Yaml
