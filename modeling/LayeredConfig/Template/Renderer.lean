import LayeredConfig.Template.Error
import LayeredConfig.Template.Segment
import LayeredConfig.Text.Blank
import LayeredConfig.Value.Text

/-!
# Rendering texts

Placeholders are filled line by line, and passes repeat until one changes
nothing. Comment lines stand as they are. A strict renderer reports every
placeholder of a pass that has no value; a lenient one leaves it in place.
-/

namespace LayeredConfig.Template

open Text

/-- The number of changing passes after which a text counts as cyclic. -/
def maxPasses : Nat := 30

/-- How placeholders and comment lines are written. -/
structure Markup where
  /-- What opens a placeholder. -/
  opening : String
  /-- What closes a placeholder. -/
  closing : String
  /-- What a comment line starts with; empty when there are no comment lines. -/
  commentMarker : String
  deriving DecidableEq, Repr

/-- The usual markup: doubled braces, and comment lines after a hash. -/
def Markup.standard : Markup := ⟨"\x7b\x7b", "\x7d\x7d", "#"⟩

/-- A renderer: its delimiters, its comment marker and its mode. -/
structure Renderer where
  /-- The delimiters of placeholders. -/
  delimiters : Delimiters
  /-- What a comment line starts with. -/
  commentMarker : List Char
  /-- A placeholder without a value is a failure. -/
  requireAll : Bool

/-- Delimiters as characters, unless one is empty. -/
def Delimiters.ofStrings? (role : DelimiterRole) (opening closing : String) :
    Except Error Delimiters :=
  if h : opening.toList = [] ∨ closing.toList = [] then
    .error (.emptyDelimiter role opening closing)
  else .ok ⟨opening.toList, closing.toList, fun ho => h (.inl ho), fun hc => h (.inr hc)⟩

/-- The renderer of a markup, unless a delimiter is empty. -/
def Renderer.ofMarkup? (markup : Markup) (requireAll : Bool) : Except Error Renderer :=
  match Delimiters.ofStrings? .placeholder markup.opening markup.closing with
  | .error e => .error e
  | .ok delimiters => .ok ⟨delimiters, markup.commentMarker.toList, requireAll⟩

/-- The outcome of a pass. -/
structure Substitution where
  /-- The text after the pass. -/
  text : List Char
  /-- At least one placeholder was replaced. -/
  changed : Bool
  deriving DecidableEq, Repr

/-- The variable that the text inside a placeholder names. -/
def placeholderName (inner : List Char) : String := String.ofList (trim inner)

/-- The text of a placeholder's variable. -/
def placeholderText? (vars : Variables) (inner : List Char) : Option (List Char) :=
  match vars.lookup? (placeholderName inner) with
  | some value => some value.toList
  | none => none

namespace Renderer

/-- The line is a comment: trimmed, it starts with the marker. -/
def isComment (r : Renderer) (line : List Char) : Bool :=
  !r.commentMarker.isEmpty && r.commentMarker.isPrefixOf (trim line)

/-- The segments of a line; a comment line is one literal. -/
def lineSegments (r : Renderer) (line : List Char) : List Segment :=
  if r.isComment line then [.literal line] else segments r.delimiters line

/-- A segment after a pass. -/
def fillSegment (r : Renderer) (vars : Variables) : Segment → List Char
  | .literal text => text
  | .placeholder inner =>
    match placeholderText? vars inner with
    | some value => value
    | none => (Segment.placeholder inner).written r.delimiters

/-- The segment is a placeholder with a value. -/
def isFilled (vars : Variables) : Segment → Bool
  | .literal _ => false
  | .placeholder inner => (placeholderText? vars inner).isSome

/-- The name that a segment leaves without a value. -/
def missingName? (vars : Variables) : Segment → Option String
  | .literal _ => none
  | .placeholder inner =>
    match placeholderText? vars inner with
    | some _ => none
    | none => some (placeholderName inner)

/-- A line after a pass. -/
def fillLine (r : Renderer) (vars : Variables) (line : List Char) : List Char :=
  (r.lineSegments line).flatMap (r.fillSegment vars)

/-- A pass replaces something in the line. -/
def changesLine (r : Renderer) (vars : Variables) (line : List Char) : Bool :=
  (r.lineSegments line).any (isFilled vars)

/-- The names without a value in a line, from left to right. -/
def missingNames (r : Renderer) (vars : Variables) (line : List Char) : List String :=
  (r.lineSegments line).filterMap (missingName? vars)

/-- The placeholders without a value in lines counted from a first number. -/
def missingFrom (r : Renderer) (vars : Variables) (number : Nat) :
    List (List Char) → List Missing
  | [] => []
  | line :: rest =>
    (r.missingNames vars line).map (Missing.mk number) ++
      missingFrom r vars (number + 1) rest

/-- The placeholders without a value that the renderer objects to. -/
def missingIn (r : Renderer) (vars : Variables) (text : List Char) : List Missing :=
  if r.requireAll then r.missingFrom vars 1 (lines text) else []

/-- A lenient renderer objects to nothing. -/
theorem missingIn_lenient {r : Renderer} (h : r.requireAll = false) (vars : Variables)
    (text : List Char) : r.missingIn vars text = [] := by
  simp [missingIn, h]

/-- One pass over a text. -/
def pass (r : Renderer) (vars : Variables) (text : List Char) : Except Error Substitution :=
  match r.missingIn vars text with
  | [] =>
    .ok ⟨unlines ((lines text).map (r.fillLine vars)),
      (lines text).any (r.changesLine vars)⟩
  | m :: more => .error (.missingVariables (m :: more))

/-- Repeat passes, at most as many as given, until one changes nothing. -/
def passes (r : Renderer) (vars : Variables) : Nat → List Char → Except Error (List Char)
  | 0, _ => .error (.didNotConverge maxPasses)
  | n + 1, text =>
    match r.pass vars text with
    | .error e => .error e
    | .ok result => if result.changed then passes r vars n result.text else .ok result.text

/-- Render a text given as characters. -/
def renderChars (r : Renderer) (vars : Variables) (text : List Char) :
    Except Error (List Char) :=
  r.passes vars maxPasses text

/-- Render a text: fill its placeholders until nothing changes. -/
def render (r : Renderer) (vars : Variables) (text : String) : Except Error String :=
  match r.renderChars vars text.toList with
  | .ok result => .ok (String.ofList result)
  | .error e => .error e

/-- One pass over a text, with whether it changed anything. -/
def substituteOnce (r : Renderer) (vars : Variables) (text : String) :
    Except Error (String × Bool) :=
  match r.pass vars text.toList with
  | .ok result => .ok (String.ofList result.text, result.changed)
  | .error e => .error e

mutual

/-- Render every text inside a value. Keys, tags and other scalars stay. -/
def renderValue (r : Renderer) (vars : Variables) : Value → Except Error Value
  | .string text =>
    match r.render vars text with
    | .ok text => .ok (.string text)
    | .error e => .error e
  | .sequence items =>
    match renderItems r vars items with
    | .ok items => .ok (.sequence items)
    | .error e => .error e
  | .mapping entries =>
    match renderEntries r vars entries with
    | .ok entries => .ok (.mapping entries)
    | .error e => .error e
  | .tagged tag value =>
    match renderValue r vars value with
    | .ok value => .ok (.tagged tag value)
    | .error e => .error e
  | .null => .ok .null
  | .bool b => .ok (.bool b)
  | .number n => .ok (.number n)

/-- Render every text inside the items of a sequence. -/
def renderItems (r : Renderer) (vars : Variables) : List Value → Except Error (List Value)
  | [] => .ok []
  | value :: rest =>
    match renderValue r vars value with
    | .error e => .error e
    | .ok value =>
      match renderItems r vars rest with
      | .error e => .error e
      | .ok rest => .ok (value :: rest)

/-- Render every text inside the values of a mapping. -/
def renderEntries (r : Renderer) (vars : Variables) :
    List (Value × Value) → Except Error (List (Value × Value))
  | [] => .ok []
  | (key, value) :: rest =>
    match renderValue r vars value with
    | .error e => .error e
    | .ok value =>
      match renderEntries r vars rest with
      | .error e => .error e
      | .ok rest => .ok ((key, value) :: rest)

end

/-- Render one variable against the unexpanded variables. -/
def renderVariable (r : Renderer) (vars : Variables) (name : String) (value : Value) :
    Except Error Value :=
  match r.renderValue vars value with
  | .ok value => .ok value
  | .error e => .error (.inVariable name e)

/-- Render the variables against themselves: every value sees the unexpanded ones. -/
def renderVariables (r : Renderer) (vars : Variables) : Except Error Variables :=
  vars.traverse (r.renderVariable vars)

end Renderer

end LayeredConfig.Template
