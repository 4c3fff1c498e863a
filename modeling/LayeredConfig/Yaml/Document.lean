import LayeredConfig.Yaml.Event
import LayeredConfig.Yaml.Scalar

/-!
# The value of a document

Events become a value: scalars by their style and tag, references by reading
the events of their anchor again. Nesting is limited, keys are unique, and a
text holds one document at most.
-/

namespace LayeredConfig.Yaml

/-- Collections may be nested this deep. -/
def maxDepth : Nat := 128

/-- References may be followed this often for each event of a document. -/
def maxJumpsPerEvent : Nat := 100

namespace Document

/-- Fail. -/
def fail {α : Type} (problem : String) : Except SyntaxError α := .error ⟨problem, none⟩

/-- The anchors of a document while its events are numbered. -/
structure Anchors where
  /-- The number of each anchor name. -/
  numbers : List (String × Nat)
  /-- The event of each number. The latest event of a number stands first. -/
  places : List (Nat × Nat)
  /-- The number that each reference carries, latest first. -/
  references : List (Nat × Nat)

/-- Enter an anchor. A new anchor is numbered by how many names there are so
far, a name that occurs again included. -/
def Anchors.enter (a : Anchors) (place : Nat) (p : Properties) : Anchors :=
  match p.anchor with
  | none => a
  | some name =>
    let number := a.numbers.length
    { a with
      numbers := (name, number) :: a.numbers.filter (fun entry => entry.1 != name)
      places := (number, place) :: a.places }

/-- Number the anchors and the references of events. -/
def Anchors.collect : Nat → List Event → Anchors → Except SyntaxError Anchors
  | _, [], a => .ok a
  | place, event :: rest, a =>
    match event with
    | .alias name =>
      match a.numbers.find? (fun entry => entry.1 == name) with
      | some (_, number) =>
        collect (place + 1) rest { a with references := (place, number) :: a.references }
      | none => fail "unknown anchor"
    | .scalar p _ _ => collect (place + 1) rest (a.enter place p)
    | .sequenceStart p => collect (place + 1) rest (a.enter place p)
    | .mappingStart p => collect (place + 1) rest (a.enter place p)
    | _ => collect (place + 1) rest a

/-- The event that a reference stands for. -/
def Anchors.target? (a : Anchors) (place : Nat) : Option Nat :=
  match a.references.find? (fun entry => entry.1 == place) with
  | some (_, number) => (a.places.find? (fun entry => entry.1 == number)).map Prod.snd
  | none => none

/-- A document to be read. -/
structure Source where
  /-- Its events. -/
  events : Array Event
  /-- Its anchors. -/
  anchors : Anchors

/-- A value with where reading stopped and how many references were followed. -/
structure Found (α : Type) where
  /-- What was read. -/
  value : α
  /-- The event behind it. -/
  place : Nat
  /-- The references followed so far. -/
  jumps : Nat

/-- A tag of the document's own: it starts with an exclamation mark. -/
def localTag? (p : Properties) : Option String :=
  match p.tag with
  | some tag =>
    match tag.toList with
    | ['!'] => some "!"
    | '!' :: rest => some (Value.tagName (String.ofList rest))
    | _ => none
  | none => none

/-- The value of a scalar whose tag is given in full, or of a plain or quoted
scalar without one. -/
def scalarValue (p : Properties) (underTag : Bool) (text : String) (plain : Bool) :
    Except SyntaxError Value :=
  let chars := text.toList
  let untagged : Except SyntaxError Value :=
    if plain then
      match plainValue? chars with
      | some v => .ok v
      | none => fail "invalid type: integer"
    else .ok (.string text)
  if underTag then untagged
  else
    match p.tag with
    | none => untagged
    | some "tag:yaml.org,2002:bool" =>
      match readBool? chars with
      | some b => .ok (.bool b)
      | none => fail "invalid value: expected a boolean"
    | some "tag:yaml.org,2002:int" =>
      match readInteger chars with
      | .value n => .ok (.number (.integer n))
      | _ => fail "invalid value: expected an integer"
    | some "tag:yaml.org,2002:float" =>
      match readFloat? chars with
      | some x => .ok (.number (.float x))
      | none => fail "invalid value: expected a float"
    | some "tag:yaml.org,2002:null" =>
      if isNullWord chars then .ok .null else fail "invalid value: expected null"
    | some _ => .ok (.string text)

mutual

/-- Read the value at an event. Under a tag already read the tag of the event
itself says nothing. -/
def value (source : Source) : (fuel depth : Nat) → (underTag : Bool) → (place jumps : Nat) →
    Except SyntaxError (Found Value)
  | 0, _, _, _, _ => fail "recursion limit exceeded"
  | fuel + 1, depth, underTag, place, jumps =>
    match source.events[place]? with
    | none => fail "the document ends too early"
    | some (.alias _) =>
      if maxJumpsPerEvent * source.events.size < jumps + 1 then fail "repetition limit exceeded"
      else
        match source.anchors.target? place with
        | none => fail "unknown anchor"
        | some target => do
          let found ← value source fuel depth false target (jumps + 1)
          pure { found with place := place + 1 }
    | some (.scalar p text plain) =>
      match if underTag then none else localTag? p with
      | some tag => do
        let found ← value source fuel depth true place jumps
        pure { found with value := .tagged tag found.value }
      | none => do
        let v ← scalarValue p underTag text plain
        pure ⟨v, place + 1, jumps⟩
    | some (.sequenceStart p) =>
      match if underTag then none else localTag? p with
      | some tag => do
        let found ← value source fuel depth true place jumps
        pure { found with value := .tagged tag found.value }
      | none =>
        match depth with
        | 0 => fail "recursion limit exceeded"
        | depth + 1 => do
          let found ← items source fuel depth (place + 1) jumps
          pure ⟨.sequence found.value, found.place, found.jumps⟩
    | some (.mappingStart p) =>
      match if underTag then none else localTag? p with
      | some tag => do
        let found ← value source fuel depth true place jumps
        pure { found with value := .tagged tag found.value }
      | none =>
        match depth with
        | 0 => fail "recursion limit exceeded"
        | depth + 1 => do
          let found ← entries source fuel depth [] (place + 1) jumps
          pure ⟨.mapping found.value, found.place, found.jumps⟩
    | some .sequenceEnd => fail "unexpected end of sequence"
    | some .mappingEnd => fail "unexpected end of mapping"

/-- Read the items of a sequence up to its end. -/
def items (source : Source) : (fuel depth : Nat) → (place jumps : Nat) →
    Except SyntaxError (Found (List Value))
  | 0, _, _, _ => fail "recursion limit exceeded"
  | fuel + 1, depth, place, jumps =>
    if source.events[place]? = some .sequenceEnd then .ok ⟨[], place + 1, jumps⟩
    else do
      let item ← value source fuel depth false place jumps
      let rest ← items source fuel depth item.place item.jumps
      pure { rest with value := item.value :: rest.value }

/-- Read the entries of a mapping up to its end. A key may occur once. -/
def entries (source : Source) : (fuel depth : Nat) → (before : List (Value × Value)) →
    (place jumps : Nat) → Except SyntaxError (Found (List (Value × Value)))
  | 0, _, _, _, _ => fail "recursion limit exceeded"
  | fuel + 1, depth, before, place, jumps =>
    if source.events[place]? = some .mappingEnd then .ok ⟨before, place + 1, jumps⟩
    else do
      let key ← value source fuel depth false place jumps
      if Value.bindsKey before key.value then fail "duplicate entry"
      else
        let item ← value source fuel depth false key.place key.jumps
        entries source fuel depth (before ++ [(key.value, item.value)]) item.place item.jumps

end

/-- How deep reading a document of so many events can go. -/
def fuelFor (size : Nat) : Nat := (maxDepth + 2) * (size + 6)

/-- The value of the events of a document. -/
def ofEvents (events : List Event) : Except SyntaxError Value := do
  let anchors ← Anchors.collect 0 events ⟨[], [], []⟩
  let source : Source := ⟨events.toArray, anchors⟩
  let found ← value source (fuelFor events.length) maxDepth false 0 0
  pure found.value

end Document

/-- The value of the only document in a text; null if there is none. -/
def read (text : String) : Except SyntaxError Value := do
  match ← Event.read text with
  | [] => pure .null
  | [events] => Document.ofEvents events
  | _ => Document.fail "deserializing from YAML containing more than one document is not supported"

end LayeredConfig.Yaml
