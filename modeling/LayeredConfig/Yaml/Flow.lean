import LayeredConfig.Yaml.Cursor

/-!
# Plain and quoted scalars

Scalars that may run over several lines. A single line break between words
becomes a space; of several, all but the first stay.
-/

namespace LayeredConfig.Yaml.Flow

/-- Blanks and line breaks between two words. -/
structure Gap where
  /-- A line break, escaped or not, has been passed. -/
  broken : Bool
  /-- The blanks before the first line break. -/
  blanks : List Char
  /-- The first line break. -/
  firstBreak : List Char
  /-- The line breaks after it. -/
  moreBreaks : List Char

/-- No gap. -/
def Gap.none : Gap := ⟨false, [], [], []⟩

/-- What a gap contributes to the text. -/
def Gap.text (g : Gap) : List Char :=
  if g.broken then
    if g.firstBreak == ['\n'] then
      if g.moreBreaks.isEmpty then [' '] else g.moreBreaks
    else g.firstBreak ++ g.moreBreaks
  else g.blanks

/-- Read a gap. In a plain scalar a tab may not stand for indentation. -/
def readGap (indent : Option Int) : Nat → Cursor → Gap → Except SyntaxError (Gap × Cursor)
  | 0, c, g => .ok (g, c)
  | fuel + 1, c, g =>
    if isInlineBlank c.here then
      if g.broken then
        match indent with
        | some n =>
          if (c.column : Int) < n ∧ c.here = '\t' then
            c.fail "found a tab character that violates indentation"
          else readGap indent fuel (c.skip 1) g
        | none => readGap indent fuel (c.skip 1) g
      else readGap indent fuel (c.skip 1) { g with blanks := g.blanks ++ [c.here] }
    else if isBreak c.here then
      let (line, c) := c.readBreak
      if g.broken then readGap indent fuel c { g with moreBreaks := g.moreBreaks ++ line }
      else readGap indent fuel c { g with broken := true, blanks := [], firstBreak := line }
    else .ok (g, c)

/-- The character delimits entries in a flow collection. -/
def isFlowIndicator (c : Char) : Bool :=
  c == ',' || c == '[' || c == ']' || c == '\x7b' || c == '\x7d'

/-- The length of the next word of a plain scalar; nothing where a colon may
not stand in a flow collection. -/
def wordLength? (inFlow : Bool) : List Char → Option Nat
  | [] => some 0
  | c :: rest =>
    let next := rest.headD endMark
    if isSeparator c then some 0
    else if inFlow && c == ':' && (isFlowIndicator next || next == '?') then none
    else if (c == ':' && isSeparator next) || (inFlow && isFlowIndicator c) then some 0
    else
      match wordLength? inFlow rest with
      | some n => some (n + 1)
      | none => none

/-- Read a plain scalar word by word. The result tells whether a line break follows it. -/
def readPlainWords (inFlow : Bool) (indent : Int) :
    Nat → Cursor → List Char → Gap → Except SyntaxError (List Char × Bool × Cursor)
  | 0, c, text, g => .ok (text, g.broken, c)
  | fuel + 1, c, text, g =>
    if c.atDocumentBoundary || c.here == '#' then .ok (text, g.broken, c)
    else
      match wordLength? inFlow c.rest with
      | none => c.fail "found unexpected ':'"
      | some n => do
        let word := c.rest.take n
        let c := c.skip n
        let text := if n = 0 then text else word.reverse ++ g.text.reverse ++ text
        let g := if n = 0 then g else Gap.none
        if isInlineBlank c.here || isBreak c.here then
          let (g, c) ← readGap (some indent) (c.rest.length + 1) c g
          if !inFlow && decide ((c.column : Int) < indent) then .ok (text, g.broken, c)
          else readPlainWords inFlow indent fuel c text g
        else .ok (text, g.broken, c)

/-- Read a plain scalar inside a block of some indentation. -/
def readPlain (inFlow : Bool) (outer : Int) (c : Cursor) :
    Except SyntaxError (List Char × Bool × Cursor) := do
  let (text, broken, c) ← readPlainWords inFlow (outer + 1) (c.rest.length + 1) c [] Gap.none
  pure (text.reverse, broken, c)

/-- Read a text in single quotes up to the closing quote or a blank: a doubled quote is one. -/
def readSingleWord : Nat → Cursor → List Char → List Char × Cursor
  | 0, c, text => (text, c)
  | fuel + 1, c, text =>
    if isSeparator c.here then (text, c)
    else if c.here = '\'' then
      if c.peek 1 = '\'' then readSingleWord fuel (c.skip 2) ('\'' :: text) else (text, c)
    else readSingleWord fuel (c.skip 1) (c.here :: text)

/-- The character that a one-letter escape stands for. -/
def simpleEscape? : Char → Option Char
  | '0' => some '\x00'
  | 'a' => some '\x07'
  | 'b' => some '\x08'
  | 't' => some '\t'
  | '\t' => some '\t'
  | 'n' => some '\n'
  | 'v' => some '\x0b'
  | 'f' => some '\x0c'
  | 'r' => some '\r'
  | 'e' => some '\x1b'
  | ' ' => some ' '
  | '"' => some '"'
  | '/' => some '/'
  | '\\' => some '\\'
  | 'N' => some '\x85'
  | '_' => some '\xa0'
  | 'L' => some '\u2028'
  | 'P' => some '\u2029'
  | _ => none

/-- The number of hexadecimal digits of a numeric escape. -/
def escapeLength? : Char → Option Nat
  | 'x' => some 2
  | 'u' => some 4
  | 'U' => some 8
  | _ => none

/-- The value of a hexadecimal digit. -/
def hexValue? (c : Char) : Option Nat :=
  if '0' ≤ c ∧ c ≤ '9' then some (c.toNat - 48)
  else if 'a' ≤ c ∧ c ≤ 'f' then some (c.toNat - 87)
  else if 'A' ≤ c ∧ c ≤ 'F' then some (c.toNat - 55)
  else none

/-- The number that hexadecimal digits spell. -/
def hexNumber? (digits : List Char) : Option Nat :=
  digits.foldl
    (fun value c =>
      match value, hexValue? c with
      | some n, some d => some (n * 16 + d)
      | _, _ => none)
    (some 0)

/-- Read an escape behind its backslash. -/
def readEscape (c : Cursor) : Except SyntaxError (Char × Cursor) :=
  match simpleEscape? c.here with
  | some x => .ok (x, c.skip 1)
  | none =>
    match escapeLength? c.here with
    | none => c.fail "found unknown escape character"
    | some count =>
      let digits := (c.rest.drop 1).take count
      match hexNumber? digits with
      | none => c.fail "did not find expected hexadecimal number"
      | some n =>
        if digits.length < count then c.fail "did not find expected hexadecimal number"
        else if (0xD800 ≤ n && n ≤ 0xDFFF) || 0x10FFFF < n then
          c.fail "found invalid Unicode character escape code"
        else .ok (Char.ofNat n, c.skip (count + 1))

/-- Read a text in double quotes up to the closing quote or a blank. An escaped
line break ends the word as well, which the result tells. -/
def readDoubleWord : Nat → Cursor → List Char → Except SyntaxError (List Char × Bool × Cursor)
  | 0, c, text => .ok (text, false, c)
  | fuel + 1, c, text =>
    if isSeparator c.here || c.here == '"' then .ok (text, false, c)
    else if c.here = '\\' then
      if isBreak (c.peek 1) then .ok (text, true, (c.skip 1).skipBreak)
      else do
        let (x, c) ← readEscape (c.skip 1)
        readDoubleWord fuel c (x :: text)
    else readDoubleWord fuel (c.skip 1) (c.here :: text)

/-- Read a quoted scalar word by word, behind its opening quote. -/
def readQuotedWords (double : Bool) :
    Nat → Cursor → List Char → Except SyntaxError (List Char × Cursor)
  | 0, c, _ => c.fail "found unexpected end of stream"
  | fuel + 1, c, text =>
    if c.atDocumentBoundary then c.fail "found unexpected document indicator"
    else if c.here = endMark then c.fail "found unexpected end of stream"
    else do
      let (text, escaped, c) ←
        if double then readDoubleWord (c.rest.length + 1) c text
        else
          let (text, c) := readSingleWord (c.rest.length + 1) c text
          pure (text, false, c)
      if c.here == (if double then '"' else '\'') then pure (text, c.skip 1)
      else
        let (g, c) ← readGap none (c.rest.length + 1) c { Gap.none with broken := escaped }
        readQuotedWords double fuel c (g.text.reverse ++ text)

/-- Read a quoted scalar behind its opening quote. -/
def readQuoted (double : Bool) (c : Cursor) : Except SyntaxError (List Char × Cursor) := do
  let (text, c) ← readQuotedWords double (c.rest.length + 1) c []
  pure (text.reverse, c)

end LayeredConfig.Yaml.Flow
