import LayeredConfig.Proofs.Template.Leaves
import LayeredConfig.Value.Text
import Mathlib.Data.Nat.Digits.Defs

/-!
# How a structure is spelled

The text of a structure is its compact JSON, or its descriptive text when a key has no
JSON spelling. Both are spelled by one scheme: the texts inside the structure stand in
quotes, with their characters escaped, and everything around them is the same whatever
the texts are. So a structure with other texts is spelled with other texts in the same
places.
-/

namespace LayeredConfig

/-- A piece of the text of a structure. -/
inductive Piece where
  /-- What stands around the texts. -/
  | bare (text : List Char)
  /-- A text inside the structure, in quotes. -/
  | quoted (text : String)

namespace Piece

/-- The piece with another text, if it is one. -/
def mapText (f : String → String) : Piece → Piece
  | bare text => bare text
  | quoted text => quoted (f text)

/-- How a piece is spelled. -/
def spelled (escape : Char → List Char) : Piece → List Char
  | bare text => text
  | quoted text => '"' :: text.toList.flatMap escape ++ ['"']

end Piece

/-- How pieces are spelled one after the other. -/
def spelledAll (escape : Char → List Char) (pieces : List Piece) : List Char :=
  pieces.flatMap (Piece.spelled escape)

/-- The stretches around the quoted texts, the first of them behind a front. -/
def stretches (front : List Char) : List Piece → List (List Char)
  | [] => [front]
  | .bare text :: rest => stretches (front ++ text) rest
  | .quoted _ :: rest => front :: stretches [] rest

/-- Other texts stand between the same stretches. -/
theorem stretches_mapText {f : String → String} (front : List Char) (pieces : List Piece) :
    stretches front (pieces.map (Piece.mapText f)) = stretches front pieces := by
  induction pieces generalizing front with
  | nil => rfl
  | cons piece rest ih =>
    cases piece with
    | bare text => exact ih (front ++ text)
    | quoted text => exact congrArg (front :: ·) (ih [])

section SpelledAll

variable {escape : Char → List Char}

@[simp] theorem spelledAll_nil : spelledAll escape [] = [] := rfl

@[simp] theorem spelledAll_bare (text : List Char) (pieces : List Piece) :
    spelledAll escape (.bare text :: pieces) = text ++ spelledAll escape pieces := rfl

@[simp] theorem spelledAll_quoted (text : String) (pieces : List Piece) :
    spelledAll escape (.quoted text :: pieces) =
      '"' :: text.toList.flatMap escape ++ ['"'] ++ spelledAll escape pieces := rfl

@[simp] theorem spelledAll_append (front back : List Piece) :
    spelledAll escape (front ++ back) = spelledAll escape front ++ spelledAll escape back :=
  List.flatMap_append

/-- A character that stands neither around the texts nor for an escaped one is not spelled. -/
theorem not_mem_spelledAll {c : Char} {front : List Char} {pieces : List Piece} (hquote : c ≠ '"')
    (hescape : ∀ e, c ∉ escape e) (h : ∀ stretch ∈ stretches front pieces, c ∉ stretch) :
    c ∉ front ++ spelledAll escape pieces := by
  induction pieces generalizing front with
  | nil => simpa using h front List.mem_cons_self
  | cons piece rest ih =>
    cases piece with
    | bare text => simpa using ih h
    | quoted text =>
      have hfront := h front List.mem_cons_self
      have hrest := ih fun stretch hstretch => h stretch (List.mem_cons_of_mem front hstretch)
      rw [List.nil_append] at hrest
      simp [hfront, hquote, hescape, hrest]

end SpelledAll

/-! ## Escaped characters -/

/-- No character of a string literal is escaped by a line feed. -/
theorem Json.newline_not_mem_escapeChar (c : Char) : '\n' ∉ Json.escapeChar c := by
  have hdigit : ∀ n < 16, Json.hexDigit n ≠ '\n' := by decide
  rw [Json.escapeChar]
  split_ifs with hquote hslash hplain hfeed
  any_goals decide
  · simp only [List.mem_singleton]
    rintro rfl
    exact absurd hplain (by decide)
  · have hhigh := hdigit (c.toNat / 16) (by omega)
    have hlow := hdigit (c.toNat % 16) (by omega)
    simp [hhigh.symm, hlow.symm]

/-- Hexadecimal digits are no line feed. -/
theorem Value.newline_not_mem_hexText (n : Nat) : '\n' ∉ Value.hexText n := by
  rw [hexText]
  induction n using Nat.strongRecOn with
  | ind n ih =>
    rw [Nat.toDigits_eq_if (by omega)]
    split_ifs with hn
    · simp
    · simpa using ih (n / 16) (by omega)

/-- No character of a quoted text is escaped by a line feed. -/
theorem Value.newline_not_mem_escapeChar (c : Char) : '\n' ∉ Value.escapeChar c := by
  rw [Value.escapeChar]
  split_ifs with hnul htab hreturn hfeed
  any_goals decide
  · simpa using Ne.symm hfeed
  · simp [newline_not_mem_hexText]

/-! ## Documents of structures -/

namespace Json

variable {value : Value} {key : Value} {items : List Value} {entries : List (Value × Value)}
  {tag : String} {document : Json}

/-- The documents of items are that of the first one and those of the others. -/
theorem ofItems?_cons_eq_ok_iff {documents : List Json} :
    ofItems? (value :: items) = .ok documents ↔ ∃ first others,
      ofValue? value = .ok first ∧ ofItems? items = .ok others ∧ documents = first :: others := by
  rw [ofItems?]
  cases ofValue? value with
  | error e => simp
  | ok first =>
    cases ofItems? items with
    | error e => simp
    | ok others => simp [eq_comm]

/-- The members of entries are that of the first one and those of the others. -/
theorem ofEntries?_cons_eq_ok_iff {members : List (String × Json)} :
    ofEntries? ((key, value) :: entries) = .ok members ↔ ∃ name first others,
      memberName? key = .ok name ∧ ofValue? value = .ok first ∧ ofEntries? entries = .ok others ∧
        members = (name, first) :: others := by
  rw [ofEntries?]
  cases memberName? key with
  | error e => simp
  | ok name =>
    cases ofValue? value with
    | error e => simp
    | ok first =>
      cases ofEntries? entries with
      | error e => simp
      | ok others => simp [eq_comm]

/-- A sequence becomes an array of the documents of its items. -/
theorem ofValue?_sequence_eq_ok_iff :
    ofValue? (.sequence items) = .ok document ↔
      ∃ documents, ofItems? items = .ok documents ∧ document = .array documents := by
  rw [ofValue?]
  cases ofItems? items with
  | error e => simp
  | ok documents => simp [eq_comm]

/-- A mapping becomes an object of the members of its entries. -/
theorem ofValue?_mapping_eq_ok_iff :
    ofValue? (.mapping entries) = .ok document ↔
      ∃ members, ofEntries? entries = .ok members ∧ document = .object members := by
  rw [ofValue?]
  cases ofEntries? entries with
  | error e => simp
  | ok members => simp [eq_comm]

/-- A tagged value becomes an object with the tag as its only name. -/
theorem ofValue?_tagged_eq_ok_iff :
    ofValue? (.tagged tag value) = .ok document ↔
      ∃ inner, ofValue? value = .ok inner ∧ document = .object [(Value.tagText tag, inner)] := by
  rw [ofValue?]
  cases ofValue? value with
  | error e => simp
  | ok inner => simp [eq_comm]

/-- Items have documents when each of them has one. -/
theorem exists_ofItems?_iff :
    (∃ documents, ofItems? items = .ok documents) ↔
      ∀ value ∈ items, ∃ document, ofValue? value = .ok document := by
  induction items with
  | nil => simp [ofItems?]
  | cons value rest ih =>
    rw [List.forall_mem_cons, ← ih]
    simp only [ofItems?_cons_eq_ok_iff]
    constructor
    · rintro ⟨-, first, others, hfirst, hothers, rfl⟩
      exact ⟨⟨first, hfirst⟩, others, hothers⟩
    · rintro ⟨⟨first, hfirst⟩, others, hothers⟩
      exact ⟨_, first, others, hfirst, hothers, rfl⟩

/-- Entries have members when each key has a name and each value a document. -/
theorem exists_ofEntries?_iff :
    (∃ members, ofEntries? entries = .ok members) ↔ ∀ entry ∈ entries,
      (∃ name, memberName? entry.1 = .ok name) ∧ ∃ document, ofValue? entry.2 = .ok document := by
  induction entries with
  | nil => simp [ofEntries?]
  | cons entry rest ih =>
    obtain ⟨key, value⟩ := entry
    rw [List.forall_mem_cons, ← ih]
    simp only [ofEntries?_cons_eq_ok_iff]
    constructor
    · rintro ⟨-, name, first, others, hname, hfirst, hothers, rfl⟩
      exact ⟨⟨⟨name, hname⟩, first, hfirst⟩, others, hothers⟩
    · rintro ⟨⟨⟨name, hname⟩, first, hfirst⟩, others, hothers⟩
      exact ⟨_, name, first, others, hname, hfirst, hothers, rfl⟩

/-- A sequence has a document when each item has one. -/
theorem exists_ofValue?_sequence_iff :
    (∃ document, ofValue? (.sequence items) = .ok document) ↔
      ∀ value ∈ items, ∃ document, ofValue? value = .ok document := by
  rw [← exists_ofItems?_iff]
  simp only [ofValue?_sequence_eq_ok_iff, exists_comm, exists_and_left, exists_eq, and_true]

/-- A mapping has a document when each key has a name and each value a document. -/
theorem exists_ofValue?_mapping_iff :
    (∃ document, ofValue? (.mapping entries) = .ok document) ↔ ∀ entry ∈ entries,
      (∃ name, memberName? entry.1 = .ok name) ∧ ∃ document, ofValue? entry.2 = .ok document := by
  rw [← exists_ofEntries?_iff]
  simp only [ofValue?_mapping_eq_ok_iff, exists_comm, exists_and_left, exists_eq, and_true]

/-- A tagged value has a document when what is tagged has one. -/
theorem exists_ofValue?_tagged_iff :
    (∃ document, ofValue? (.tagged tag value) = .ok document) ↔
      ∃ document, ofValue? value = .ok document := by
  simp only [ofValue?_tagged_eq_ok_iff, exists_comm, exists_and_left, exists_eq, and_true]

/-- Whether a value has a document is decided by its keys, not by the texts in it. -/
theorem exists_ofValue?_mapLeaves_iff {f : String → String} (value : Value) :
    (∃ document, ofValue? (value.mapLeaves f) = .ok document) ↔
      ∃ document, ofValue? value = .ok document := by
  induction value with
  | null => rfl
  | bool b => rfl
  | number n => rfl
  | string text => exact ⟨fun _ => ⟨_, rfl⟩, fun _ => ⟨_, rfl⟩⟩
  | sequence items ih =>
    rw [Value.mapLeaves_sequence, exists_ofValue?_sequence_iff, exists_ofValue?_sequence_iff,
      List.forall_mem_map]
    exact forall₂_congr ih
  | mapping entries ih =>
    rw [Value.mapLeaves_mapping, exists_ofValue?_mapping_iff, exists_ofValue?_mapping_iff,
      List.forall_mem_map]
    exact forall₂_congr fun entry hentry => and_congr_right fun _ => ih entry hentry
  | tagged tag value ih =>
    rw [Value.mapLeaves, exists_ofValue?_tagged_iff, exists_ofValue?_tagged_iff]
    exact ih

end Json

/-- What stands around the texts of a structure, and how they are escaped. -/
structure Layout where
  /-- How a character of a text is escaped. -/
  escape : Char → List Char
  /-- Nothing. -/
  null : List Char
  /-- A truth value. -/
  bool : Bool → List Char
  /-- A number. -/
  number : Number → List Char
  /-- What stands before and behind a text. -/
  text : List Char × List Char
  /-- What stands before and behind items. -/
  items : List Char × List Char
  /-- What stands before and behind entries. -/
  entries : List Char × List Char
  /-- What stands between items or entries. -/
  separator : List Char
  /-- A key, with what stands between it and its value. -/
  key : Value → List Char
  /-- What stands before and behind a value under a tag. -/
  tagged : String → List Char × List Char

namespace Layout

mutual

/-- The pieces of the text of a value. -/
def pieces (l : Layout) : Value → List Piece
  | .null => [.bare l.null]
  | .bool b => [.bare (l.bool b)]
  | .number n => [.bare (l.number n)]
  | .string text => [.bare l.text.1, .quoted text, .bare l.text.2]
  | .sequence items => .bare l.items.1 :: itemPieces l true items ++ [.bare l.items.2]
  | .mapping entries => .bare l.entries.1 :: entryPieces l true entries ++ [.bare l.entries.2]
  | .tagged tag value => .bare (l.tagged tag).1 :: pieces l value ++ [.bare (l.tagged tag).2]

/-- The pieces of items, with what stands between them. -/
def itemPieces (l : Layout) (isFirst : Bool) : List Value → List Piece
  | [] => []
  | value :: rest =>
    .bare (if isFirst then [] else l.separator) :: pieces l value ++ itemPieces l false rest

/-- The pieces of entries, with what stands between them. -/
def entryPieces (l : Layout) (isFirst : Bool) : List (Value × Value) → List Piece
  | [] => []
  | (key, value) :: rest =>
    .bare ((if isFirst then [] else l.separator) ++ l.key key) :: pieces l value ++
      entryPieces l false rest

end

/-- Compact JSON. -/
def json : Layout where
  escape := Json.escapeChar
  null := ['n', 'u', 'l', 'l']
  bool b := if b then ['t', 'r', 'u', 'e'] else ['f', 'a', 'l', 's', 'e']
  number
    | .integer n => (Json.numberText (.integer n)).toList
    | .float x => if x.isFinite then (Json.numberText (.float x)).toList else ['n', 'u', 'l', 'l']
  text := ([], [])
  items := (['['], [']'])
  entries := (['\x7b'], ['\x7d'])
  separator := [',']
  key key :=
    match Json.memberName? key with
    | .ok name => Json.literal name ++ [':']
    | .error _ => []
  tagged tag := ('\x7b' :: Json.literal (Value.tagText tag) ++ [':'], ['\x7d'])

/-- Descriptive text. -/
def descriptive : Layout where
  escape := Value.escapeChar
  null := "Null".toList
  bool b := "Bool(".toList ++ (Value.boolText b).toList ++ [')']
  number n := "Number(".toList ++ (Value.numberText n).toList ++ [')']
  text := ("String(".toList, [')'])
  items := ("Sequence [".toList, [']'])
  entries := ("Mapping \x7b".toList, ['\x7d'])
  separator := [',', ' ']
  key key := Value.keyText key (Value.describe key) ++ [':', ' ']
  tagged tag := ("TaggedValue \x7b tag: ".toList ++ (Value.tagText tag).toList ++
    ", value: ".toList, " \x7d".toList)

/-- The layout of the text of a structure: descriptive when a key has no JSON spelling. -/
def of (value : Value) : Layout :=
  match Json.ofValue? value with
  | .ok _ => json
  | .error _ => descriptive

variable {l : Layout} {f : String → String} {value : Value}

/-- Parts one after the other, each behind a front of its own, with what stands between them. -/
def joined (l : Layout) (isFirst : Bool) : List (List Char × List Piece) → List Piece
  | [] => []
  | (front, part) :: rest =>
    .bare ((if isFirst then [] else l.separator) ++ front) :: part ++ joined l false rest

/-- The pieces of items are those of the items, joined. -/
theorem itemPieces_eq_joined (isFirst : Bool) (items : List Value) :
    l.itemPieces isFirst items =
      l.joined isFirst (items.map fun value => ([], l.pieces value)) := by
  induction items generalizing isFirst with
  | nil => rfl
  | cons value rest ih => rw [itemPieces, ih, List.map_cons, joined, List.append_nil]

/-- The pieces of entries are those of the values, joined behind the keys. -/
theorem entryPieces_eq_joined (isFirst : Bool) (entries : List (Value × Value)) :
    l.entryPieces isFirst entries =
      l.joined isFirst (entries.map fun entry => (l.key entry.1, l.pieces entry.2)) := by
  induction entries generalizing isFirst with
  | nil => rfl
  | cons entry rest ih => rw [entryPieces, ih, List.map_cons, joined]

/-- A text among joined parts is a text in one of them. -/
theorem exists_mem_of_mem_joined {text : String} {isFirst : Bool}
    {parts : List (List Char × List Piece)} (h : .quoted text ∈ l.joined isFirst parts) :
    ∃ part ∈ parts, .quoted text ∈ part.2 := by
  induction parts generalizing isFirst with
  | nil => cases h
  | cons part rest ih =>
    rw [joined, List.mem_append, List.mem_cons] at h
    rcases h with (h | h) | h
    · cases h
    · exact ⟨part, List.mem_cons_self, h⟩
    · obtain ⟨other, hother, htext⟩ := ih h
      exact ⟨other, List.mem_cons_of_mem part hother, htext⟩

/-- Other texts are joined in the same way. -/
theorem map_mapText_joined (isFirst : Bool) (parts : List (List Char × List Piece)) :
    (l.joined isFirst parts).map (Piece.mapText f) =
      l.joined isFirst (parts.map fun part => (part.1, part.2.map (Piece.mapText f))) := by
  induction parts generalizing isFirst with
  | nil => rfl
  | cons part rest ih =>
    rw [joined, List.map_append, List.map_cons, ih, List.map_cons, joined]
    rfl

/-- The texts among the pieces of a value are texts inside it. -/
theorem mem_leaves_of_mem_pieces {text : String} (h : .quoted text ∈ l.pieces value) :
    text ∈ value.leaves := by
  induction value with
  | null => simp [pieces] at h
  | bool b => simp [pieces] at h
  | number n => simp [pieces] at h
  | string s =>
    simp only [pieces, List.mem_cons, reduceCtorEq, Piece.quoted.injEq, List.not_mem_nil,
      or_false, false_or] at h
    simp [Value.leaves, h]
  | sequence items ih =>
    rw [pieces, itemPieces_eq_joined, List.mem_append, List.mem_cons, List.mem_singleton] at h
    rcases h with (h | h) | h
    · cases h
    · obtain ⟨part, hpart, hmem⟩ := exists_mem_of_mem_joined h
      obtain ⟨value, hvalue, rfl⟩ := List.mem_map.mp hpart
      rw [Value.leaves_sequence, List.mem_flatMap]
      exact ⟨value, hvalue, ih value hvalue hmem⟩
    · cases h
  | mapping entries ih =>
    rw [pieces, entryPieces_eq_joined, List.mem_append, List.mem_cons, List.mem_singleton] at h
    rcases h with (h | h) | h
    · cases h
    · obtain ⟨part, hpart, hmem⟩ := exists_mem_of_mem_joined h
      obtain ⟨entry, hentry, rfl⟩ := List.mem_map.mp hpart
      rw [Value.leaves_mapping, List.mem_flatMap]
      exact ⟨entry, hentry, ih entry hentry hmem⟩
    · cases h
  | tagged tag value ih =>
    rw [pieces, List.mem_append, List.mem_cons, List.mem_singleton] at h
    rcases h with (h | h) | h
    · cases h
    · exact ih h
    · cases h

/-- A value with other texts has the same pieces, with the other texts. -/
theorem pieces_mapLeaves (value : Value) :
    l.pieces (value.mapLeaves f) = (l.pieces value).map (Piece.mapText f) := by
  induction value with
  | null => rfl
  | bool b => rfl
  | number n => rfl
  | string s => rfl
  | sequence items ih =>
    have hitems : (items.map (Value.mapLeaves f)).map (fun value => ([], l.pieces value)) =
        (items.map fun value => ([], l.pieces value)).map fun part =>
          ((part.1 : List Char), part.2.map (Piece.mapText f)) := by
      rw [List.map_map, List.map_map]
      exact List.map_congr_left fun value hvalue => congrArg _ (ih value hvalue)
    rw [Value.mapLeaves_sequence, pieces, pieces, itemPieces_eq_joined, itemPieces_eq_joined,
      hitems, ← map_mapText_joined]
    simp [Piece.mapText]
  | mapping entries ih =>
    have hentries : (entries.map fun entry => (entry.1, entry.2.mapLeaves f)).map
        (fun entry => (l.key entry.1, l.pieces entry.2)) =
          (entries.map fun entry => (l.key entry.1, l.pieces entry.2)).map fun part =>
            (part.1, part.2.map (Piece.mapText f)) := by
      rw [List.map_map, List.map_map]
      exact List.map_congr_left fun entry hentry => congrArg _ (ih entry hentry)
    rw [Value.mapLeaves_mapping, pieces, pieces, entryPieces_eq_joined, entryPieces_eq_joined,
      hentries, ← map_mapText_joined]
    simp [Piece.mapText]
  | tagged tag value ih =>
    rw [Value.mapLeaves, pieces, pieces, ih]
    simp [Piece.mapText]

/-! ## Texts of structures are spelled by their pieces -/

/-- The descriptive text of a value is spelled by its pieces. -/
theorem describe_eq_spelledAll (value : Value) :
    value.describe = spelledAll Value.escapeChar (descriptive.pieces value) := by
  induction value with
  | null => rfl
  | bool b =>
    calc (Value.bool b).describe
        = "Bool(".toList ++ (Value.boolText b).toList ++ [')'] := rfl
      _ = spelledAll Value.escapeChar (descriptive.pieces (.bool b)) := by
        simp only [pieces, descriptive, spelledAll_bare, spelledAll_nil, List.append_nil]
  | number n =>
    calc (Value.number n).describe
        = "Number(".toList ++ (Value.numberText n).toList ++ [')'] := rfl
      _ = spelledAll Value.escapeChar (descriptive.pieces (.number n)) := by
        simp only [pieces, descriptive, spelledAll_bare, spelledAll_nil, List.append_nil]
  | string text =>
    calc (Value.string text).describe
        = "String(".toList ++ Value.quoted text ++ [')'] := rfl
      _ = spelledAll Value.escapeChar (descriptive.pieces (.string text)) := by
        simp only [pieces, descriptive, Value.quoted, spelledAll_bare, spelledAll_quoted,
          spelledAll_nil, List.append_nil, List.append_assoc]
  | sequence items ih =>
    have hitems : ∀ isFirst, Value.describeItems isFirst items =
        spelledAll Value.escapeChar (descriptive.itemPieces isFirst items) := by
      induction items with
      | nil => intro isFirst; rfl
      | cons value rest ihrest =>
        intro isFirst
        have hrest := ihrest (fun other hother => ih other (List.mem_cons_of_mem value hother))
        rw [Value.describeItems, itemPieces, ih value List.mem_cons_self, hrest]
        simp [descriptive]
    calc (Value.sequence items).describe
        = "Sequence [".toList ++ Value.describeItems true items ++ [']'] := rfl
      _ = spelledAll Value.escapeChar (descriptive.pieces (.sequence items)) := by
        simp only [hitems, pieces, descriptive, spelledAll_bare, spelledAll_append, spelledAll_nil,
          List.cons_append, List.append_nil, List.append_assoc]
  | mapping entries ih =>
    have hentries : ∀ isFirst, Value.describeEntries isFirst entries =
        spelledAll Value.escapeChar (descriptive.entryPieces isFirst entries) := by
      induction entries with
      | nil => intro isFirst; rfl
      | cons entry rest ihrest =>
        intro isFirst
        have hrest := ihrest (fun other hother => ih other (List.mem_cons_of_mem entry hother))
        rw [Value.describeEntries, entryPieces, ih entry List.mem_cons_self, hrest]
        simp [descriptive]
    calc (Value.mapping entries).describe
        = "Mapping \x7b".toList ++ Value.describeEntries true entries ++ ['\x7d'] := rfl
      _ = spelledAll Value.escapeChar (descriptive.pieces (.mapping entries)) := by
        simp only [hentries, pieces, descriptive, spelledAll_bare, spelledAll_append,
          spelledAll_nil, List.cons_append, List.append_nil, List.append_assoc]
  | tagged tag value ih =>
    calc (Value.tagged tag value).describe
        = "TaggedValue \x7b tag: ".toList ++ (Value.tagText tag).toList ++ ", value: ".toList ++
            value.describe ++ " \x7d".toList := rfl
      _ = spelledAll Value.escapeChar (descriptive.pieces (.tagged tag value)) := by
        simp only [ih, pieces, descriptive, spelledAll_bare, spelledAll_append, spelledAll_nil,
          List.cons_append, List.append_nil, List.append_assoc]

/-- The compact text of the document of a value is spelled by the pieces of the value. -/
theorem compact_eq_spelledAll {document : Json} (h : Json.ofValue? value = .ok document) :
    document.compact = spelledAll Json.escapeChar (json.pieces value) := by
  induction value generalizing document with
  | null => cases h; rfl
  | bool b => cases h; cases b <;> rfl
  | number n =>
    cases n with
    | integer n => cases h; simp [Json.compact, pieces, json]
    | float x =>
      cases h
      by_cases hx : x.isFinite <;> simp [Json.compact, pieces, json, hx]
  | string text => cases h; simp [Json.compact, Json.literal, pieces, json]
  | sequence items ih =>
    have hitems : ∀ documents, Json.ofItems? items = .ok documents →
        Json.compactItems documents =
          spelledAll Json.escapeChar (json.itemPieces false items) := by
      clear h
      induction items with
      | nil => rintro - ⟨⟩; rfl
      | cons value rest ihrest =>
        intro documents h
        have hrest := ihrest (fun other hother => ih other (List.mem_cons_of_mem value hother))
        obtain ⟨first, others, hfirst, hothers, rfl⟩ := Json.ofItems?_cons_eq_ok_iff.mp h
        rw [Json.compactItems, itemPieces, ih value List.mem_cons_self hfirst,
          hrest others hothers]
        simp [json]
    obtain ⟨documents, hdocuments, rfl⟩ := Json.ofValue?_sequence_eq_ok_iff.mp h
    have hspelled := hitems documents hdocuments
    cases items with
    | nil => cases hdocuments; rfl
    | cons value rest =>
      -- the first item has no comma in front
      obtain ⟨first, others, -, -, rfl⟩ := Json.ofItems?_cons_eq_ok_iff.mp hdocuments
      simp only [Json.compactItems, itemPieces, json, List.cons_append, spelledAll_bare,
        List.nil_append, List.cons.injEq, true_and, Bool.false_eq_true, if_false] at hspelled
      simp only [Json.compact, pieces, itemPieces, json, List.cons_append, spelledAll_bare,
        spelledAll_append, spelledAll_nil, List.nil_append, if_true, hspelled]
  | mapping entries ih =>
    have hentries : ∀ members, Json.ofEntries? entries = .ok members →
        Json.compactMembers members =
          spelledAll Json.escapeChar (json.entryPieces false entries) := by
      clear h
      induction entries with
      | nil => rintro - ⟨⟩; rfl
      | cons entry rest ihrest =>
        intro members h
        obtain ⟨key, value⟩ := entry
        have hrest := ihrest (fun other hother => ih other (List.mem_cons_of_mem _ hother))
        obtain ⟨name, first, others, hname, hfirst, hothers, rfl⟩ :=
          Json.ofEntries?_cons_eq_ok_iff.mp h
        have hvalue : first.compact = spelledAll Json.escapeChar (json.pieces value) :=
          ih _ List.mem_cons_self hfirst
        rw [Json.compactMembers, entryPieces, hvalue, hrest others hothers]
        simp [json, hname]
    obtain ⟨members, hmembers, rfl⟩ := Json.ofValue?_mapping_eq_ok_iff.mp h
    have hspelled := hentries members hmembers
    cases entries with
    | nil => cases hmembers; rfl
    | cons entry rest =>
      obtain ⟨key, value⟩ := entry
      obtain ⟨name, first, others, hname, -, -, rfl⟩ := Json.ofEntries?_cons_eq_ok_iff.mp hmembers
      simp only [Json.compactMembers, entryPieces, json, List.cons_append, spelledAll_bare,
        List.nil_append, List.cons.injEq, true_and, Bool.false_eq_true, if_false] at hspelled
      simp only [Json.compact, pieces, entryPieces, json, List.cons_append, spelledAll_bare,
        spelledAll_append, spelledAll_nil, List.nil_append, if_true, hspelled]
      simp
  | tagged tag value ih =>
    obtain ⟨inner, hinner, rfl⟩ := Json.ofValue?_tagged_eq_ok_iff.mp h
    rw [Json.compact, Json.compactMembers, ih hinner, pieces]
    simp [json]

/-- The other texts in a value do not decide its layout. -/
theorem of_mapLeaves (value : Value) : of (value.mapLeaves f) = of value := by
  have hiff := Json.exists_ofValue?_mapLeaves_iff (f := f) value
  rw [of, of]
  cases hvalue : Json.ofValue? value with
  | ok document =>
    obtain ⟨mapped, hmapped⟩ := hiff.mpr ⟨document, hvalue⟩
    rw [hmapped]
  | error e =>
    cases hmapped : Json.ofValue? (value.mapLeaves f) with
    | error e' => rfl
    | ok mapped =>
      obtain ⟨document, hdocument⟩ := hiff.mp ⟨mapped, hmapped⟩
      rw [hvalue] at hdocument
      cases hdocument

/-- The text of a structure is spelled by its pieces, in its layout. -/
theorem structureText_eq (value : Value) :
    value.structureText =
      String.ofList (spelledAll (of value).escape ((of value).pieces value)) := by
  rw [Value.structureText, of]
  cases hvalue : Json.ofValue? value with
  | ok document =>
    dsimp only
    rw [compact_eq_spelledAll hvalue]
    rfl
  | error e =>
    dsimp only
    rw [describe_eq_spelledAll]
    rfl

/-- No character is escaped by a line feed. -/
theorem newline_not_mem_escape (value : Value) (c : Char) : '\n' ∉ (of value).escape c := by
  rw [of]
  cases Json.ofValue? value with
  | ok document => exact Json.newline_not_mem_escapeChar c
  | error e => exact Value.newline_not_mem_escapeChar c

end Layout

end LayeredConfig
