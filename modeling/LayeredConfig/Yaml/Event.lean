import LayeredConfig.Yaml.Token

/-!
# Events of a document

The nodes of a document in reading order: scalars and references, and the
start and end of collections. Tags are complete, whatever handle they were
written with.
-/

namespace LayeredConfig.Yaml

/-- What a node may carry in front of its content. -/
structure Properties where
  /-- The name that later references use. -/
  anchor : Option String
  /-- The complete tag. -/
  tag : Option String
  deriving DecidableEq, Repr, Inhabited

/-- A node without properties. -/
def Properties.none : Properties := ⟨.none, .none⟩

/-- A step through a document. -/
inductive Event where
  /-- A reference to an anchor. -/
  | alias (name : String)
  /-- A scalar, and whether it is plain. -/
  | scalar (properties : Properties) (text : String) (plain : Bool)
  /-- A sequence starts. -/
  | sequenceStart (properties : Properties)
  /-- A sequence ends. -/
  | sequenceEnd
  /-- A mapping starts. -/
  | mappingStart (properties : Properties)
  /-- A mapping ends. -/
  | mappingEnd
  deriving DecidableEq, Repr, Inhabited

namespace Event

/-- A scalar that is not there. -/
def empty : Event := .scalar .none "" true

/-- What is read and what is still to be read. -/
structure Reader where
  /-- The tokens from here on. -/
  tokens : List Token
  /-- The events so far. -/
  events : Array Event
  /-- The tag handles with their meaning. -/
  handles : List (String × String)

namespace Reader

/-- Fail. -/
def fail {α : Type} (problem : String) : Except SyntaxError α := .error ⟨problem, none⟩

/-- The next token. -/
def peek (r : Reader) : Token := r.tokens.headD .streamEnd

/-- Move over a token. -/
def drop (r : Reader) : Reader := { r with tokens := r.tokens.drop 1 }

/-- Append an event. -/
def emit (r : Reader) (e : Event) : Reader := { r with events := r.events.push e }

/-- The complete tag of a handle and the rest behind it. -/
def completeTag (r : Reader) (handle rest : String) : Except SyntaxError String :=
  if handle = "" then .ok rest
  else
    match r.handles.find? (fun entry => entry.1 == handle) with
    | some (_, meaning) => .ok (meaning ++ rest)
    | none => fail "found undefined tag handle"

/-- Read the anchor and the tag in front of a node, in either order. -/
def readProperties (r : Reader) : Except SyntaxError (Properties × Reader) :=
  match r.peek with
  | .anchor name =>
    match r.drop.peek with
    | .tag handle rest => do
      let tag ← r.completeTag handle rest
      pure (⟨some name, some tag⟩, r.drop.drop)
    | _ => .ok (⟨some name, none⟩, r.drop)
  | .tag handle rest => do
    let tag ← r.completeTag handle rest
    match r.drop.peek with
    | .anchor name => pure (⟨some name, some tag⟩, r.drop.drop)
    | _ => pure (⟨none, some tag⟩, r.drop)
  | _ => .ok (.none, r)

/-- The bare exclamation mark as a tag of a scalar says nothing. -/
def scalarProperties (p : Properties) : Properties :=
  if p.tag = some "!" then { p with tag := none } else p

/-- A token before which a block entry, key or value is empty. -/
def endsBlockItem : Token → Bool
  | .key | .value | .blockEnd => true
  | _ => false

mutual

/-- Read a node. Collections in block style count only where blocks may stand,
and a sequence at the indentation of its mapping only as a key or value there. -/
def node : Nat → (block indentless : Bool) → Reader → Except SyntaxError Reader
  | 0, _, _, _ => fail "the document is too deep"
  | fuel + 1, block, indentless, r =>
    match r.peek with
    | .alias name => .ok (r.drop.emit (.alias name))
    | _ => do
      let (p, r) ← r.readProperties
      match r.peek with
      | .entry =>
        if indentless then indentlessEntries fuel (r.emit (.sequenceStart p))
        else emptyNode p r
      | .scalar text plain => pure (r.drop.emit (.scalar (scalarProperties p) text plain))
      | .flowSequence => flowEntries fuel true (r.drop.emit (.sequenceStart p))
      | .flowMapping => flowMembers fuel true (r.drop.emit (.mappingStart p))
      | .blockSequence =>
        if block then blockEntries fuel (r.drop.emit (.sequenceStart p)) else emptyNode p r
      | .blockMapping =>
        if block then blockMembers fuel (r.drop.emit (.mappingStart p)) else emptyNode p r
      | _ => emptyNode p r

/-- A node that has properties but no content is an empty scalar. -/
def emptyNode (p : Properties) (r : Reader) : Except SyntaxError Reader :=
  if p = .none then fail "did not find expected node content"
  else .ok (r.emit (.scalar p "" true))

/-- Read the entries of a block sequence. -/
def blockEntries : Nat → Reader → Except SyntaxError Reader
  | 0, _ => fail "the document is too deep"
  | fuel + 1, r =>
    match r.peek with
    | .entry =>
      let r := r.drop
      match r.peek with
      | .entry | .blockEnd => blockEntries fuel (r.emit .empty)
      | _ => do blockEntries fuel (← node fuel true false r)
    | .blockEnd => .ok (r.drop.emit .sequenceEnd)
    | _ => fail "did not find expected '-' indicator"

/-- Read the entries of a sequence at the indentation of its mapping. -/
def indentlessEntries : Nat → Reader → Except SyntaxError Reader
  | 0, _ => fail "the document is too deep"
  | fuel + 1, r =>
    match r.peek with
    | .entry =>
      let r := r.drop
      if r.peek = .entry || endsBlockItem r.peek then indentlessEntries fuel (r.emit .empty)
      else do indentlessEntries fuel (← node fuel true false r)
    | _ => .ok (r.emit .sequenceEnd)

/-- Read the keys and values of a block mapping. -/
def blockMembers : Nat → Reader → Except SyntaxError Reader
  | 0, _ => fail "the document is too deep"
  | fuel + 1, r =>
    match r.peek with
    | .key => do
      let r := r.drop
      let r ← if endsBlockItem r.peek then pure (r.emit .empty) else node fuel true true r
      match r.peek with
      | .value =>
        let r := r.drop
        if endsBlockItem r.peek then blockMembers fuel (r.emit .empty)
        else blockMembers fuel (← node fuel true true r)
      | _ => blockMembers fuel (r.emit .empty)
    | .blockEnd => .ok (r.drop.emit .mappingEnd)
    | _ => fail "did not find expected key"

/-- Read the entries of a flow sequence. An entry with a key is a mapping of one member. -/
def flowEntries : Nat → (isFirst : Bool) → Reader → Except SyntaxError Reader
  | 0, _, _ => fail "the document is too deep"
  | fuel + 1, isFirst, r =>
    if r.peek = .flowSequenceEnd then .ok (r.drop.emit .sequenceEnd)
    else do
      let r ←
        if isFirst then pure r
        else if r.peek = .comma then pure r.drop
        else fail "did not find expected ',' or ']'"
      match r.peek with
      | .key => flowEntries fuel false (← flowPair fuel (r.drop.emit (.mappingStart .none)))
      | .flowSequenceEnd => pure (r.drop.emit .sequenceEnd)
      | _ => flowEntries fuel false (← node fuel false false r)

/-- Read the key and the value of a mapping of one member. What stands in place
of a missing key is passed over. -/
def flowPair : Nat → Reader → Except SyntaxError Reader
  | 0, _ => fail "the document is too deep"
  | fuel + 1, r => do
    let r ←
      match r.peek with
      | .value | .comma | .flowSequenceEnd => pure (r.drop.emit .empty)
      | _ => node fuel false false r
    match r.peek with
    | .value =>
      let r := r.drop
      match r.peek with
      | .comma | .flowSequenceEnd => pure ((r.emit .empty).emit .mappingEnd)
      | _ => pure ((← node fuel false false r).emit .mappingEnd)
    | _ => pure ((r.emit .empty).emit .mappingEnd)

/-- Read the members of a flow mapping. -/
def flowMembers : Nat → (isFirst : Bool) → Reader → Except SyntaxError Reader
  | 0, _, _ => fail "the document is too deep"
  | fuel + 1, isFirst, r =>
    if r.peek = .flowMappingEnd then .ok (r.drop.emit .mappingEnd)
    else do
      let r ←
        if isFirst then pure r
        else if r.peek = .comma then pure r.drop
        else fail "did not find expected ',' or '\x7d'"
      match r.peek with
      | .key => do
        let r := r.drop
        let r ←
          match r.peek with
          | .value | .comma | .flowMappingEnd => pure (r.emit .empty)
          | _ => node fuel false false r
        match r.peek with
        | .value =>
          let r := r.drop
          match r.peek with
          | .comma | .flowMappingEnd => flowMembers fuel false (r.emit .empty)
          | _ => flowMembers fuel false (← node fuel false false r)
        | _ => flowMembers fuel false (r.emit .empty)
      | .flowMappingEnd => pure (r.drop.emit .mappingEnd)
      | _ => flowMembers fuel false ((← node fuel false false r).emit .empty)

end

/-- The tag handles that every document knows. -/
def standardHandles : List (String × String) := [("!", "!"), ("!!", "tag:yaml.org,2002:")]

/-- Read the directives in front of a document. -/
def readDirectives : Nat → (versioned : Bool) → Reader → Except SyntaxError Reader
  | 0, _, r => .ok r
  | fuel + 1, versioned, r =>
    match r.peek with
    | .version major minor =>
      if versioned then fail "found duplicate %YAML directive"
      else if major = 1 ∧ (minor = 1 ∨ minor = 2) then readDirectives fuel true r.drop
      else fail "found incompatible YAML document"
    | .tagHandle handle meaning =>
      if r.handles.any (fun entry => entry.1 == handle) then
        fail "found duplicate %TAG directive"
      else readDirectives fuel versioned { r.drop with handles := (handle, meaning) :: r.handles }
    | _ => .ok { r with handles := r.handles ++ standardHandles }

/-- A document that ends here has no content. -/
def endsDocument : Token → Bool
  | .version _ _ | .tagHandle _ _ | .documentStart | .documentEnd | .streamEnd => true
  | _ => false

/-- Read the documents of a stream, each as its events. Only the first may lack a start mark. -/
def documents : Nat → (isFirst : Bool) → Reader → Except SyntaxError (List (List Event))
  | 0, _, _ => .ok []
  | fuel + 1, isFirst, r => do
    let r := { r with events := #[], handles := [] }
    let bound := 4 * r.tokens.length + 8
    let r := if isFirst then r else { r with tokens := r.tokens.dropWhile (· == .documentEnd) }
    let bare :=
      match r.peek with
      | .version _ _ | .tagHandle _ _ | .documentStart | .streamEnd => false
      | _ => isFirst
    if r.peek = .streamEnd then pure []
    else
      let r ← readDirectives bound false r
      let r ←
        if bare then node bound true false r
        else if r.peek != .documentStart then fail "did not find expected <document start>"
        else if endsDocument r.drop.peek then pure (r.drop.emit .empty)
        else node bound true false r.drop
      let found := r.events.toList
      let r := if r.peek = .documentEnd then r.drop else r
      pure (found :: (← documents fuel false r))

end Reader

/-- The events of the documents in a text. -/
def read (text : String) : Except SyntaxError (List (List Event)) := do
  let tokens ← Token.scan text
  Reader.documents (tokens.length + 1) true ⟨tokens, #[], []⟩

end Event

end LayeredConfig.Yaml
