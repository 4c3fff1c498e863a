import LayeredConfig.Command.Show
import LayeredConfig.Proofs.Text.ByteOrder
import LayeredConfig.Proofs.Traversal
import LayeredConfig.Proofs.Value.JsonBlanks
import LayeredConfig.Proofs.Value.Spelling

/-!
# Shown variables and the text of structures

Variables are shown as an indented object, and a structure stands in a template as its compact
text. Both are printed from the document of the value, so the shown text without its blanks holds
the texts of the structures as they stand in templates. There is a document unless a mapping
somewhere in a value has a key that JSON has no spelling for.
-/

namespace LayeredConfig

open Text

/-! ## Keys without a spelling -/

/-- JSON has no spelling for a mapping key. -/
def Value.IsForeignKey : Value → Prop
  | .null | .sequence _ | .mapping _ | .tagged _ _ => True
  | .number (.float .nan) | .number (.float (.infinite _)) => True
  | .bool _ | .number _ | .string _ => False

/-- A mapping somewhere in a value has a key, be it under tags or in a key itself. -/
inductive Value.IsKeyIn (key : Value) : Value → Prop where
  /-- The key of an entry. -/
  | entry {entries : List (Value × Value)} {value : Value} (h : (key, value) ∈ entries) :
    IsKeyIn key (.mapping entries)
  /-- A key in the key of an entry. -/
  | inKey {entries : List (Value × Value)} {entry : Value × Value} (hentry : entry ∈ entries)
    (h : IsKeyIn key entry.1) : IsKeyIn key (.mapping entries)
  /-- A key in the value of an entry. -/
  | inValue {entries : List (Value × Value)} {entry : Value × Value} (hentry : entry ∈ entries)
    (h : IsKeyIn key entry.2) : IsKeyIn key (.mapping entries)
  /-- A key in an item. -/
  | inItem {items : List Value} {item : Value} (hitem : item ∈ items) (h : IsKeyIn key item) :
    IsKeyIn key (.sequence items)
  /-- A key under a tag. -/
  | underTag {tag : String} {value : Value} (h : IsKeyIn key value) :
    IsKeyIn key (.tagged tag value)

variable {key value : Value}

/-- Only a value that is foreign as a key has keys in it. -/
theorem Value.IsKeyIn.isForeignKey (h : key.IsKeyIn value) : value.IsForeignKey := by
  cases h <;> exact trivial

namespace Json

/-- The keys with a spelling are those that are not foreign. -/
theorem exists_memberName?_iff : (∃ name, memberName? key = .ok name) ↔ ¬ key.IsForeignKey := by
  cases key with
  | number n =>
    cases n with
    | integer n => simp [memberName?, Value.IsForeignKey]
    | float x => cases x <;> simp [memberName?, Value.IsForeignKey, Binary64.isFinite]
  | _ => simp [memberName?, Value.IsForeignKey]

/-- A value has a document unless a foreign key is in it. -/
theorem exists_ofValue?_iff (value : Value) :
    (∃ document, ofValue? value = .ok document) ↔
      ∀ key : Value, key.IsKeyIn value → ¬ key.IsForeignKey := by
  induction value with
  | null => exact iff_of_true ⟨_, rfl⟩ fun _ h => nomatch h
  | bool b => exact iff_of_true ⟨_, rfl⟩ fun _ h => nomatch h
  | number n =>
    have hdocument : ∃ document, ofValue? (.number n) = .ok document := by
      cases n <;> exact ⟨_, rfl⟩
    exact iff_of_true hdocument fun _ h => nomatch h
  | string text => exact iff_of_true ⟨_, rfl⟩ fun _ h => nomatch h
  | sequence items ih =>
    rw [exists_ofValue?_sequence_iff]
    constructor
    · intro hall key hkey
      cases hkey with
      | inItem hitem hkey => exact (ih _ hitem).mp (hall _ hitem) key hkey
    · intro hkeys item hitem
      exact (ih item hitem).mpr fun key hkey => hkeys key (.inItem hitem hkey)
  | mapping entries ih =>
    rw [exists_ofValue?_mapping_iff]
    constructor
    · intro hall key hkey
      cases hkey with
      | entry hentry => exact exists_memberName?_iff.mp (hall _ hentry).1
      | inKey hentry hkey =>
        -- a key with a spelling has no keys in it
        exact absurd hkey.isForeignKey (exists_memberName?_iff.mp (hall _ hentry).1)
      | inValue hentry hkey => exact (ih _ hentry).mp (hall _ hentry).2 key hkey
    · intro hkeys entry hentry
      exact ⟨exists_memberName?_iff.mpr (hkeys entry.1 (.entry hentry)),
        (ih entry hentry).mpr fun key hkey => hkeys key (.inValue hentry hkey)⟩
  | tagged tag value ih =>
    rw [exists_ofValue?_tagged_iff, ih]
    constructor
    · intro hkeys key hkey
      cases hkey with
      | underTag hkey => exact hkeys key hkey
    · exact fun hkeys key hkey => hkeys key (.underTag hkey)

/-! ## The text of an object -/

/-- The text of an object whose members have these names and texts. -/
def objectText (members : List (String × List Char)) : List Char :=
  '\x7b' :: [','].intercalate (members.map fun member => literal member.1 ++ ':' :: member.2) ++
    ['\x7d']

/-- The compact text of an object is made of those of its members. -/
theorem compact_object (members : List (String × Json)) :
    compact (.object members) =
      objectText (members.map fun member => (member.1, member.2.compact)) := by
  have hothers : ∀ (front : List Char) (members : List (String × Json)),
      front ++ compactMembers members =
        [','].intercalate (front :: members.map fun m => literal m.1 ++ ':' :: m.2.compact) := by
    intro front members
    induction members generalizing front with
    | nil => simp [compactMembers]
    | cons member others ih =>
      rw [List.map_cons, List.intercalate_cons_cons, ← ih]
      simp [compactMembers]
  cases members with
  | nil => rfl
  | cons member others =>
    have hmembers := hothers (literal member.1 ++ ':' :: compact member.2) others
    rw [compact, objectText, List.map_map]
    simp [Function.comp_def, ← hmembers]

end Json

/-! ## Variables -/

/-- The members of variables are their entries with the documents of the values. -/
theorem Variables.members?_eq_traverseEntries (entries : List (String × Value)) :
    members? entries = SortedMap.traverseEntries (fun _ value => Json.ofValue? value) entries := by
  induction entries with
  | nil => rfl
  | cons entry rest ih =>
    rw [members?, SortedMap.traverseEntries, ih]
    cases Json.ofValue? entry.2 with
    | error e => rfl
    | ok document =>
      cases SortedMap.traverseEntries (fun _ value => Json.ofValue? value) rest with
      | error e => rfl
      | ok others => rfl

/-- The members of variables can be listed unless a foreign key is in a value. -/
theorem Variables.exists_traverse_iff (vars : Variables) :
    (∃ members, vars.traverse (fun _ value => Json.ofValue? value) = .ok members) ↔
      ∀ name value, vars.get? name = some value →
        ∀ key : Value, key.IsKeyIn value → ¬ key.IsForeignKey := by
  have hentry : ∀ entry : String × Value,
      (∃ member, SortedMap.keyed (fun _ value => Json.ofValue? value) entry = .ok member) ↔
        ∃ document, Json.ofValue? entry.2 = .ok document := by
    intro entry
    simp [SortedMap.keyed_eq_ok_iff]
  rw [SortedMap.exists_traverse_eq_ok_iff, SortedMap.traverseEntries_eq_mapM,
    exists_mapM_eq_ok_iff]
  constructor
  · intro hall name value hvalue
    have hmem := SortedMap.mem_entries_iff.mpr hvalue
    exact (Json.exists_ofValue?_iff value).mp ((hentry _).mp (hall _ hmem))
  · intro hkeys entry hmem
    have hvalue := SortedMap.mem_entries_iff.mp hmem
    exact (hentry _).mpr ((Json.exists_ofValue?_iff entry.2).mpr (hkeys entry.1 entry.2 hvalue))

/-- The text of variables is that of the object with the documents of their values. -/
theorem Variables.prettyText_eq_ok_iff {vars : Variables} {text : String} :
    vars.prettyText = .ok text ↔ ∃ members : SortedMap String Json,
      vars.traverse (fun _ value => Json.ofValue? value) = .ok members ∧
        text = String.ofList ((Json.object members.entries).pretty 0) := by
  rw [prettyText, json?, members?_eq_traverseEntries]
  cases h : vars.traverse fun _ value => Json.ofValue? value with
  | error e => simp [SortedMap.traverse_eq_error_iff.mp h]
  | ok members => simp [SortedMap.traverse_eq_ok_iff.mp h, eq_comm]

/-- The value is a sequence or a mapping without a tag. -/
def Value.IsStructure : Value → Prop
  | .sequence _ | .mapping _ => True
  | _ => False

/-- A structure stands for the compact text of its document. -/
theorem Value.text?_of_isStructure {document : Json} (h : value.IsStructure)
    (hdocument : Json.ofValue? value = .ok document) :
    value.text? = some (String.ofList document.compact) := by
  cases value with
  | sequence items => rw [text?, structureText, hdocument]
  | mapping entries => rw [text?, structureText, hdocument]
  | _ => cases h

/-- Variables are shown unless a mapping somewhere in a value, be it under tags, has a key that
JSON has no spelling for. Without the blanks outside literals, what is shown is the object of the
variables, in the order of the octets of their names; each value stands there as its document does,
and a sequence or a mapping without a tag as the text that it stands for in a template. -/
theorem Variables.prettyText_of_variables (vars : Variables) :
    ((∃ text, vars.prettyText = .ok text) ↔ ∀ name value, vars.get? name = some value →
      ∀ key : Value, key.IsKeyIn value → ¬ key.IsForeignKey) ∧
    ∀ text, vars.prettyText = .ok text → ∃ members : List (String × List Char),
      Json.withoutBlanks .outside text.toList = Json.objectText members ∧
      members.map Prod.fst = vars.keys ∧ (vars.keys.map octets).Pairwise (· < ·) ∧
      ∀ name value, vars.get? name = some value → ∃ document,
        Json.ofValue? value = .ok document ∧ (name, document.compact) ∈ members ∧
        (value.IsStructure → value.text? = some (String.ofList document.compact)) := by
  constructor
  · simp only [prettyText_eq_ok_iff, exists_comm, exists_and_left, exists_eq, and_true]
    exact vars.exists_traverse_iff
  · intro text htext
    obtain ⟨members, htraverse, rfl⟩ := prettyText_eq_ok_iff.mp htext
    refine ⟨members.entries.map fun member => (member.1, member.2.compact), ?_, ?_, ?_, ?_⟩
    · have hblanks := Json.withoutBlanks_pretty 0 [] (.object members.entries)
      rw [List.append_nil, Json.compact_object] at hblanks
      rw [String.toList_ofList, hblanks]
      exact List.append_nil _
    · rw [List.map_map]
      exact SortedMap.map_fst_traverseEntries (SortedMap.traverse_eq_ok_iff.mp htraverse)
    · rw [List.pairwise_map]
      exact vars.pairwise_keys.imp fun hlt => octets_lt_iff.mpr hlt
    · intro name value hvalue
      obtain ⟨hnone, -⟩ | ⟨found, document, hfound, hstep, hmember⟩ :=
        SortedMap.get?_traverse htraverse name
      · rw [hnone] at hvalue
        cases hvalue
      · obtain rfl : found = value := Option.some.inj (hfound.symm.trans hvalue)
        have hmem := SortedMap.mem_entries_iff.mpr hmember
        exact ⟨document, hstep, List.mem_map_of_mem hmem,
          fun h => Value.text?_of_isStructure h hstep⟩

/-- Variables with blanks and quotes in texts, and with a key that JSON has no spelling for if it
is that of a mapping in an item under a tag. -/
def Variables.mixed (key : Value) : Variables :=
  .ofList
    [ ("port", .number (.integer 80)),
      ("list", .sequence [.string "a \" b", .null, .mapping []]),
      ("more", .tagged "x" (.sequence [.mapping [(key, .bool true)]])) ]

/-- A list stands among shown variables as in a template, with the blanks and the quote in its text.
With null as the key of a mapping under a tag nothing is shown. -/
theorem Variables.prettyText_mixed :
    (∃ text members, (mixed (.number (.integer 1))).prettyText = .ok text ∧
      Json.withoutBlanks .outside text.toList = Json.objectText members ∧
      members.map Prod.fst = ["list", "more", "port"] ∧
      ∃ value, (mixed (.number (.integer 1))).get? "list" = some value ∧
        value.text? = some "[\"a \\\" b\",null,\x7b\x7d]" ∧
        ("list", "[\"a \\\" b\",null,\x7b\x7d]".toList) ∈ members) ∧
    ¬ ∃ text, (mixed .null).prettyText = .ok text := by
  constructor
  · obtain ⟨-, hshown⟩ := prettyText_of_variables (mixed (.number (.integer 1)))
    obtain ⟨text, htext⟩ : ∃ text, (mixed (.number (.integer 1))).prettyText = .ok text := ⟨_, rfl⟩
    obtain ⟨members, hblanks, hkeys, -, hmembers⟩ := hshown text htext
    obtain ⟨document, hdocument, hmem, hstands⟩ := hmembers "list" _ rfl
    have hcompact : document.compact = "[\"a \\\" b\",null,\x7b\x7d]".toList := by
      cases hdocument
      rfl
    rw [hcompact] at hmem hstands
    exact ⟨text, members, htext, hblanks, hkeys, _, rfl, hstands trivial, hmem⟩
  · intro hshown
    obtain ⟨hiff, -⟩ := prettyText_of_variables (mixed .null)
    have hnull : Value.null.IsKeyIn (.tagged "x" (.sequence [.mapping [(.null, .bool true)]])) :=
      .underTag (.inItem List.mem_cons_self (.entry List.mem_cons_self))
    exact hiff.mp hshown "more" _ rfl .null hnull trivial

end LayeredConfig
