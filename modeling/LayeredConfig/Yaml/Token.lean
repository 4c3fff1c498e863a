import LayeredConfig.Yaml.Block
import LayeredConfig.Yaml.Flow

/-!
# Tokens of a document

A document is read into tokens from left to right. Indentation opens and
closes blocks. Whether a scalar is a key shows only at the colon behind it, so
places that may turn out to be keys are remembered and the key token is
inserted there afterwards.
-/

namespace LayeredConfig.Yaml

/-- A token. -/
inductive Token where
  /-- A version directive. -/
  | version (major minor : Nat)
  /-- A directive that gives a tag handle its meaning. -/
  | tagHandle (handle meaning : String)
  /-- The start mark of a document. -/
  | documentStart
  /-- The end mark of a document. -/
  | documentEnd
  /-- A block sequence opens. -/
  | blockSequence
  /-- A block mapping opens. -/
  | blockMapping
  /-- A block closes. -/
  | blockEnd
  /-- A flow sequence opens. -/
  | flowSequence
  /-- A flow sequence closes. -/
  | flowSequenceEnd
  /-- A flow mapping opens. -/
  | flowMapping
  /-- A flow mapping closes. -/
  | flowMappingEnd
  /-- A block sequence entry. -/
  | entry
  /-- A comma between flow entries. -/
  | comma
  /-- A key follows. -/
  | key
  /-- A value follows. -/
  | value
  /-- A reference to an anchor. -/
  | alias (name : String)
  /-- An anchor. -/
  | anchor (name : String)
  /-- A tag. -/
  | tag (handle rest : String)
  /-- A scalar, and whether it is plain. -/
  | scalar (text : String) (plain : Bool)
  /-- The end of the text. -/
  | streamEnd
  deriving DecidableEq, Repr, Inhabited

namespace Token

/-- A place that may turn out to be a key. -/
structure Candidate where
  /-- How many tokens stand before it. -/
  place : Nat
  /-- It must turn out to be a key. -/
  required : Bool
  /-- Where it starts. -/
  mark : Cursor

/-- A key keeps to one line and to this many characters. -/
def maxKeyLength : Nat := 1024

/-- The state of reading. -/
structure Scanner where
  /-- What is still to be read. -/
  cursor : Cursor
  /-- The tokens so far. -/
  tokens : Array Token
  /-- The indentation of the innermost block; minus one outside all blocks. -/
  indent : Int
  /-- The indentations of the blocks around it. -/
  outer : List Int
  /-- A key may start here. -/
  keyAllowed : Bool
  /-- The possible key of the innermost collection. -/
  candidate : Option Candidate
  /-- The possible keys of the flow collections around it. -/
  candidates : List (Option Candidate)

namespace Scanner

/-- The state before a text. -/
def start (text : List Char) : Scanner :=
  { cursor := Cursor.start text
    tokens := #[]
    indent := -1
    outer := []
    keyAllowed := true
    candidate := none
    candidates := [] }

/-- The cursor is inside a flow collection. -/
def inFlow (s : Scanner) : Bool := !s.candidates.isEmpty

/-- Append a token. -/
def push (s : Scanner) (t : Token) : Scanner := { s with tokens := s.tokens.push t }

/-- Append a token that stands at the cursor and is some characters long. -/
def take (s : Scanner) (count : Nat) (t : Token) : Scanner :=
  { s.push t with cursor := s.cursor.skip count }

/-- A possible key that the cursor has left behind. -/
def isStale (s : Scanner) (k : Candidate) : Bool :=
  k.mark.line < s.cursor.line || k.mark.index + maxKeyLength < s.cursor.index

/-- Drop a possible key, unless it had to be one. -/
def dropCandidate (k : Option Candidate) : Except SyntaxError (Option Candidate) :=
  match k with
  | some k => if k.required then k.mark.fail "could not find expected ':'" else .ok none
  | none => .ok none

/-- Drop the possible key of the innermost collection. -/
def dropKey (s : Scanner) : Except SyntaxError Scanner := do
  let k ← dropCandidate s.candidate
  pure { s with candidate := k }

/-- Drop a possible key if the cursor has left it behind. -/
def dropIfStale (s : Scanner) (k : Option Candidate) : Except SyntaxError (Option Candidate) :=
  match k with
  | some c => if s.isStale c then dropCandidate k else .ok k
  | none => .ok none

/-- Drop every possible key that the cursor has left behind. -/
def dropStale (s : Scanner) : Except SyntaxError Scanner := do
  let outer ← s.candidates.mapM (dropIfStale s)
  let k ← dropIfStale s s.candidate
  pure { s with candidate := k, candidates := outer }

/-- Remember the cursor as a possible key, where one is allowed. -/
def noteKey (s : Scanner) : Except SyntaxError Scanner :=
  if s.keyAllowed then do
    let required := !s.inFlow && decide (s.indent = s.cursor.column)
    let s ← s.dropKey
    pure { s with candidate := some ⟨s.tokens.size, required, s.cursor⟩ }
  else .ok s

/-- Open a block at a column that is deeper than the blocks around, in front of
a token or at the end. -/
def openBlock (s : Scanner) (column : Nat) (place : Nat) (t : Token) : Scanner :=
  if !s.inFlow && decide (s.indent < column) then
    { s with
      tokens := s.tokens.insertIdxIfInBounds place t
      indent := column
      outer := s.indent :: s.outer }
  else s

/-- Close the blocks that are deeper than a column. -/
def closeBlocks (s : Scanner) (column : Int) : Scanner :=
  if s.inFlow then s
  else go s.outer s
where
  /-- Close one block after the other. -/
  go : List Int → Scanner → Scanner
    | [], s => s
    | indent :: rest, s =>
      if column < s.indent then go rest { s.push .blockEnd with indent := indent, outer := rest }
      else s

/-- Move to the next token: over blanks, comments and line breaks. A tab may
not stand where indentation counts. -/
def skipToToken : Nat → Scanner → Scanner
  | 0, s => s
  | fuel + 1, s =>
    let tabs := s.inFlow || !s.keyAllowed
    let c := (s.cursor.skipWhile fun x => x == ' ' || (tabs && x == '\t')).skipComment
    if isBreak c.here then
      skipToToken fuel
        { s with cursor := c.skipBreak, keyAllowed := s.keyAllowed || !s.inFlow }
    else { s with cursor := c }

/-- The end of the text. -/
def takeEnd (s : Scanner) : Except SyntaxError Scanner := do
  let s ← (s.closeBlocks (-1)).dropKey
  pure { s.push .streamEnd with keyAllowed := false }

/-- A mark of three characters that bounds a document. -/
def takeBoundary (s : Scanner) (t : Token) : Except SyntaxError Scanner := do
  let s ← (s.closeBlocks (-1)).dropKey
  pure { s.take 3 t with keyAllowed := false }

/-- Read the number of a version directive. -/
def readVersionNumber (c : Cursor) : Except SyntaxError (Nat × Cursor) :=
  let (digits, c) := c.spanWhile Char.isDigit
  if digits.isEmpty then c.fail "did not find expected version number"
  else if 9 < digits.length then c.fail "found extremely long version number"
  else .ok (digits.foldl (fun n d => n * 10 + (d.toNat - 48)) 0, c)

/-- Read a tag handle: exclamation marks around a name, or a single one. In a
directive nothing else may stand there. -/
def readHandle (inDirective : Bool) (c : Cursor) : Except SyntaxError (List Char × Cursor) :=
  if c.here != '!' then c.fail "did not find expected '!'"
  else
    let (name, c) := (c.skip 1).spanWhile isNameChar
    if c.here = '!' then .ok ('!' :: name ++ ['!'], c.skip 1)
    else if inDirective && !name.isEmpty then c.fail "did not find expected '!'"
    else .ok ('!' :: name, c)

/-- The character may stand in a tag. -/
def isTagChar (verbatim : Bool) (c : Char) : Bool :=
  isNameChar c || ";/?:@&=+$.%!~*'()".toList.contains c ||
    (verbatim && (c == ',' || c == '[' || c == ']'))

/-- The number of octets of a character, from its first octet. -/
def octetCount? (first : Nat) : Option Nat :=
  if first < 0x80 then some 1
  else if 0xC0 ≤ first && first < 0xE0 then some 2
  else if 0xE0 ≤ first && first < 0xF0 then some 3
  else if 0xF0 ≤ first && first < 0xF8 then some 4
  else none

/-- Read octets that are written as escapes. -/
def readOctets : Nat → Cursor → Except SyntaxError (List UInt8 × Cursor)
  | 0, c => .ok ([], c)
  | count + 1, c =>
    match c.here, Flow.hexNumber? [c.peek 1, c.peek 2] with
    | '%', some n => do
      let (more, c) ← readOctets count (c.skip 3)
      pure (UInt8.ofNat n :: more, c)
    | _, _ => c.fail "did not find URI escaped octet"

/-- Read a character that is written as escaped octets. -/
def readEscapedChar (c : Cursor) : Except SyntaxError (List Char × Cursor) :=
  match Flow.hexNumber? [c.peek 1, c.peek 2] with
  | none => c.fail "did not find URI escaped octet"
  | some first =>
    match octetCount? first with
    | none => c.fail "found an incorrect leading UTF-8 octet"
    | some count => do
      let (octets, rest) ← readOctets count c
      match String.fromUTF8? ⟨octets.toArray⟩ with
      | some text => pure (text.toList, rest)
      | none => c.fail "found an incorrect trailing UTF-8 octet"

/-- Read the characters of a tag, last one first. -/
def readTagChars (verbatim : Bool) : Nat → Cursor → List Char →
    Except SyntaxError (List Char × Cursor)
  | 0, c, text => .ok (text, c)
  | fuel + 1, c, text =>
    if !isTagChar verbatim c.here then .ok (text, c)
    else if c.here = '%' then do
      let (x, c) ← readEscapedChar c
      readTagChars verbatim fuel c (x.reverse ++ text)
    else readTagChars verbatim fuel (c.skip 1) (c.here :: text)

/-- Read the rest of a tag behind what a handle turned out to be. It must not be empty. -/
def readTagRest (verbatim : Bool) (head : List Char) (c : Cursor) :
    Except SyntaxError (String × Cursor) := do
  let (text, rest) ← readTagChars verbatim (c.rest.length + 1) c []
  if head.isEmpty && text.isEmpty then c.fail "did not find expected tag URI"
  else pure (String.ofList (head.drop 1 ++ text.reverse), rest)

/-- Read a directive behind its percent sign. -/
def readDirective (c : Cursor) : Except SyntaxError (Token × Cursor) := do
  let (name, c) := c.spanWhile isNameChar
  if name.isEmpty then c.fail "could not find expected directive name"
  else if !isSeparator c.here then c.fail "found unexpected non-alphabetical character"
  else if name = "YAML".toList then do
    let (major, c) ← readVersionNumber (c.skipWhile isInlineBlank)
    if c.here != '.' then c.fail "did not find expected digit or '.' character"
    else
      let (minor, c) ← readVersionNumber (c.skip 1)
      pure (.version major minor, c)
  else if name = "TAG".toList then do
    let (handle, c) ← readHandle true (c.skipWhile isInlineBlank)
    if !isInlineBlank c.here then c.fail "did not find expected whitespace"
    else
      let (meaning, c) ← readTagRest true [] (c.skipWhile isInlineBlank)
      if !isSeparator c.here then c.fail "did not find expected whitespace or line break"
      else pure (.tagHandle (String.ofList handle) meaning, c)
  else c.fail "found unknown directive name"

/-- A directive, with the rest of its line. -/
def takeDirective (s : Scanner) : Except SyntaxError Scanner := do
  let s ← (s.closeBlocks (-1)).dropKey
  let (t, c) ← readDirective (s.cursor.skip 1)
  let c := (c.skipWhile isInlineBlank).skipComment
  if !(isBreak c.here || c.here == endMark) then
    c.fail "did not find expected comment or line break"
  else pure { s.push t with cursor := c.skipBreak, keyAllowed := false }

/-- The opening of a flow collection. -/
def takeFlowStart (s : Scanner) (t : Token) : Except SyntaxError Scanner := do
  let s ← s.noteKey
  pure { s.take 1 t with
    candidate := none, candidates := s.candidate :: s.candidates, keyAllowed := true }

/-- The closing of a flow collection. -/
def takeFlowEnd (s : Scanner) (t : Token) : Except SyntaxError Scanner := do
  let s ← s.dropKey
  let s :=
    match s.candidates with
    | k :: rest => { s with candidate := k, candidates := rest }
    | [] => s
  pure { s.take 1 t with keyAllowed := false }

/-- A comma between flow entries. -/
def takeComma (s : Scanner) : Except SyntaxError Scanner := do
  let s ← s.dropKey
  pure { s.take 1 .comma with keyAllowed := true }

/-- The indicator of a block sequence entry. -/
def takeEntry (s : Scanner) : Except SyntaxError Scanner := do
  if !s.inFlow && !s.keyAllowed then
    s.cursor.fail "block sequence entries are not allowed in this context"
  else
    let s ← (s.openBlock s.cursor.column s.tokens.size .blockSequence).dropKey
    pure { s.take 1 .entry with keyAllowed := true }

/-- The indicator of a key. -/
def takeKey (s : Scanner) : Except SyntaxError Scanner := do
  if !s.inFlow && !s.keyAllowed then
    s.cursor.fail "mapping keys are not allowed in this context"
  else
    let s ← (s.openBlock s.cursor.column s.tokens.size .blockMapping).dropKey
    pure { s.take 1 .key with keyAllowed := !s.inFlow }

/-- The indicator of a value. A possible key before it becomes one. -/
def takeValue (s : Scanner) : Except SyntaxError Scanner :=
  match s.candidate with
  | some k =>
    let s := { s with tokens := s.tokens.insertIdxIfInBounds k.place .key }
    let s := s.openBlock k.mark.column k.place .blockMapping
    .ok { s.take 1 .value with candidate := none, keyAllowed := false }
  | none =>
    if !s.inFlow && !s.keyAllowed then
      s.cursor.fail "mapping values are not allowed in this context"
    else
      let s := s.openBlock s.cursor.column s.tokens.size .blockMapping
      .ok { s.take 1 .value with keyAllowed := !s.inFlow }

/-- The character may stand behind the name of an anchor. -/
def endsAnchor (c : Char) : Bool := isSeparator c || "?:,]\x7d%@\x60".toList.contains c

/-- An anchor, or a reference to one. -/
def takeAnchor (s : Scanner) (make : String → Token) : Except SyntaxError Scanner := do
  let s ← s.noteKey
  let (name, c) := (s.cursor.skip 1).spanWhile isNameChar
  if name.isEmpty || !endsAnchor c.here then
    c.fail "did not find expected alphabetic or numeric character"
  else pure { s.push (make (String.ofList name)) with cursor := c, keyAllowed := false }

/-- Read a tag: verbatim, behind a handle, or a bare exclamation mark. -/
def readTag (c : Cursor) : Except SyntaxError (Token × Cursor) :=
  if c.peek 1 = '<' then do
    let (text, c) ← readTagRest true [] (c.skip 2)
    if c.here != '>' then c.fail "did not find the expected '>'"
    else pure (.tag "" text, c.skip 1)
  else do
    let (handle, c) ← readHandle false c
    if 1 < handle.length && handle.getLast? == some '!' then
      let (text, c) ← readTagRest false [] c
      pure (.tag (String.ofList handle) text, c)
    else
      let (text, c) ← readTagRest false handle c
      if text.isEmpty then pure (.tag "" "!", c) else pure (.tag "!" text, c)

/-- A tag. -/
def takeTag (s : Scanner) : Except SyntaxError Scanner := do
  let s ← s.noteKey
  let (t, c) ← readTag s.cursor
  if isSeparator c.here || (s.inFlow && c.here == ',') then
    pure { s.push t with cursor := c, keyAllowed := false }
  else c.fail "did not find expected whitespace or line break"

/-- A block scalar. -/
def takeBlockScalar (s : Scanner) (folded : Bool) : Except SyntaxError Scanner := do
  let s ← s.dropKey
  let (text, c) ← Block.read folded s.indent (s.cursor.skip 1)
  pure { s.push (.scalar (String.ofList text) false) with cursor := c, keyAllowed := true }

/-- A quoted scalar. -/
def takeQuoted (s : Scanner) (double : Bool) : Except SyntaxError Scanner := do
  let s ← s.noteKey
  let (text, c) ← Flow.readQuoted double (s.cursor.skip 1)
  pure { s.push (.scalar (String.ofList text) false) with cursor := c, keyAllowed := false }

/-- A plain scalar. A line break behind it allows a key again. -/
def takePlain (s : Scanner) : Except SyntaxError Scanner := do
  let s ← s.noteKey
  let (text, broken, c) ← Flow.readPlain s.inFlow s.indent s.cursor
  pure { s.push (.scalar (String.ofList text) true) with cursor := c, keyAllowed := broken }

/-- A plain scalar may start at the cursor. -/
def startsPlain (s : Scanner) : Bool :=
  let c := s.cursor.here
  let next := s.cursor.peek 1
  !(isSeparator c || "-?:,[]\x7b\x7d#&*!|>'\"%@\x60".toList.contains c) ||
    (c == '-' && !isInlineBlank next) ||
    (!s.inFlow && (c == '?' || c == ':') && !isSeparator next)

/-- Read the token at the cursor. -/
def takeToken (s : Scanner) : Except SyntaxError Scanner :=
  let c := s.cursor.here
  let separated := isSeparator (s.cursor.peek 1)
  if c = endMark then s.takeEnd
  else if s.cursor.column = 0 ∧ c = '%' then s.takeDirective
  else if s.cursor.atDocumentMark '-' then s.takeBoundary .documentStart
  else if s.cursor.atDocumentMark '.' then s.takeBoundary .documentEnd
  else if c = '[' then s.takeFlowStart .flowSequence
  else if c = '\x7b' then s.takeFlowStart .flowMapping
  else if c = ']' then s.takeFlowEnd .flowSequenceEnd
  else if c = '\x7d' then s.takeFlowEnd .flowMappingEnd
  else if c = ',' then s.takeComma
  else if c == '-' && separated then s.takeEntry
  else if c == '?' && (s.inFlow || separated) then s.takeKey
  else if c == ':' && (s.inFlow || separated) then s.takeValue
  else if c = '*' then s.takeAnchor .alias
  else if c = '&' then s.takeAnchor .anchor
  else if c = '!' then s.takeTag
  else if c == '|' && !s.inFlow then s.takeBlockScalar false
  else if c == '>' && !s.inFlow then s.takeBlockScalar true
  else if c = '\'' then s.takeQuoted false
  else if c = '"' then s.takeQuoted true
  else if s.startsPlain then s.takePlain
  else s.cursor.fail "found character that cannot start any token"

/-- Read the next token: move to it, give up the possible keys left behind, and
close the blocks that it is not part of. -/
def next (s : Scanner) : Except SyntaxError Scanner := do
  let s := { s with cursor := s.cursor.skipOrderMark }
  let s ← (skipToToken (s.cursor.rest.length + 1) s).dropStale
  (s.closeBlocks s.cursor.column).takeToken

/-- Read tokens up to the end of the text. -/
def readAll : Nat → Scanner → Except SyntaxError (Array Token)
  | 0, s => .ok s.tokens
  | fuel + 1, s => do
    let s ← s.next
    if s.tokens.back? = some .streamEnd then pure s.tokens else readAll fuel s

end Scanner

/-- The first character that a document may not hold. -/
def firstForbidden? (text : List Char) : Option Char := text.find? fun c => !isAllowed c

/-- The tokens of a text. -/
def scan (text : String) : Except SyntaxError (List Token) :=
  let chars := text.toList
  match firstForbidden? chars with
  | some _ => (Cursor.start chars).fail "control characters are not allowed"
  | none =>
    match Scanner.readAll (2 * chars.length + 2) (Scanner.start chars) with
    | .ok tokens => .ok tokens.toList
    | .error e => .error e

end Token

end LayeredConfig.Yaml
