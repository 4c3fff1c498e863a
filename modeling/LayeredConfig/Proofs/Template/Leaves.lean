import LayeredConfig.Proofs.Template.RenderedValues
import LayeredConfig.Proofs.Text.ByteOrder
import Mathlib.Data.List.Basic

/-!
# The texts inside a value

What rendering asks about a value are the texts inside it, in the order of the document.
Rendering a value is a walk through these texts: it has a result when each of them has
one, it stops at the first one that has none, and the result is the value with its texts
replaced. Keys, tags and other scalars stand as they are, and so does the shape.
-/

namespace LayeredConfig

namespace Value

mutual

/-- The texts inside a value, keys apart, in the order of the document. -/
def leaves : Value → List String
  | .string text => [text]
  | .sequence items => itemLeaves items
  | .mapping entries => entryLeaves entries
  | .tagged _ value => leaves value
  | .null | .bool _ | .number _ => []

/-- The texts inside the items of a sequence. -/
def itemLeaves : List Value → List String
  | [] => []
  | value :: rest => leaves value ++ itemLeaves rest

/-- The texts inside the values of a mapping. -/
def entryLeaves : List (Value × Value) → List String
  | [] => []
  | (_, value) :: rest => leaves value ++ entryLeaves rest

end

mutual

/-- A value with other texts in the same places. Keys, tags and other scalars stay. -/
def mapLeaves (f : String → String) : Value → Value
  | .string text => .string (f text)
  | .sequence items => .sequence (mapItems f items)
  | .mapping entries => .mapping (mapEntries f entries)
  | .tagged tag value => .tagged tag (mapLeaves f value)
  | .null => .null
  | .bool b => .bool b
  | .number n => .number n

/-- The items of a sequence with other texts. -/
def mapItems (f : String → String) : List Value → List Value
  | [] => []
  | value :: rest => mapLeaves f value :: mapItems f rest

/-- The entries of a mapping with other texts under the same keys. -/
def mapEntries (f : String → String) : List (Value × Value) → List (Value × Value)
  | [] => []
  | (key, value) :: rest => (key, mapLeaves f value) :: mapEntries f rest

end

variable {f : String → String}

/-- The texts inside the items are those of the items one after the other. -/
theorem itemLeaves_eq_flatMap (items : List Value) : itemLeaves items = items.flatMap leaves := by
  induction items with
  | nil => rfl
  | cons value rest ih => rw [itemLeaves, ih, List.flatMap_cons]

/-- The texts inside the values are those of the values one after the other. -/
theorem entryLeaves_eq_flatMap (entries : List (Value × Value)) :
    entryLeaves entries = entries.flatMap fun entry => entry.2.leaves := by
  induction entries with
  | nil => rfl
  | cons entry rest ih => rw [entryLeaves, ih, List.flatMap_cons]

/-- The texts inside a sequence are those of its items. -/
@[simp]
theorem leaves_sequence (items : List Value) :
    (Value.sequence items).leaves = items.flatMap leaves := by
  rw [leaves, itemLeaves_eq_flatMap]

/-- The texts inside a mapping are those of its values. -/
@[simp]
theorem leaves_mapping (entries : List (Value × Value)) :
    (Value.mapping entries).leaves = entries.flatMap fun entry => entry.2.leaves := by
  rw [leaves, entryLeaves_eq_flatMap]

/-- Each item of a sequence gets its other texts. -/
@[simp]
theorem mapLeaves_sequence (items : List Value) :
    (Value.sequence items).mapLeaves f = .sequence (items.map (mapLeaves f)) := by
  rw [mapLeaves]
  congr 1
  induction items with
  | nil => rfl
  | cons value rest ih => rw [mapItems, ih, List.map_cons]

/-- Each value of a mapping gets its other texts, under its key. -/
@[simp]
theorem mapLeaves_mapping (entries : List (Value × Value)) :
    (Value.mapping entries).mapLeaves f =
      .mapping (entries.map fun entry => (entry.1, entry.2.mapLeaves f)) := by
  rw [mapLeaves]
  congr 1
  induction entries with
  | nil => rfl
  | cons entry rest ih => rw [mapEntries, ih, List.map_cons]

/-- Other texts in the same places make the same value when they are the same inside it. -/
theorem mapLeaves_congr {g : String → String} {value : Value}
    (h : ∀ text ∈ value.leaves, f text = g text) : value.mapLeaves f = value.mapLeaves g := by
  induction value with
  | null => rfl
  | bool b => rfl
  | number n => rfl
  | string text => exact congrArg string (h text List.mem_cons_self)
  | sequence items ih =>
    rw [leaves_sequence] at h
    rw [mapLeaves_sequence, mapLeaves_sequence]
    refine congrArg sequence (List.map_congr_left fun value hvalue => ?_)
    exact ih value hvalue fun text htext => h text (List.mem_flatMap.mpr ⟨value, hvalue, htext⟩)
  | mapping entries ih =>
    rw [leaves_mapping] at h
    rw [mapLeaves_mapping, mapLeaves_mapping]
    refine congrArg mapping (List.map_congr_left fun entry hentry => ?_)
    rw [ih entry hentry fun text htext => h text (List.mem_flatMap.mpr ⟨entry, hentry, htext⟩)]
  | tagged tag value ih => exact congrArg (tagged tag) (ih h)

/-- A value with its own texts is itself. -/
theorem mapLeaves_id (value : Value) : value.mapLeaves id = value := by
  induction value with
  | null => rfl
  | bool b => rfl
  | number n => rfl
  | string text => rfl
  | sequence items ih =>
    rw [mapLeaves_sequence, List.map_congr_left ih, List.map_id']
  | mapping entries ih =>
    have hentries : ∀ entry ∈ entries, (entry.1, entry.2.mapLeaves id) = entry := fun entry h => by
      rw [ih entry h]
    rw [mapLeaves_mapping, List.map_congr_left hentries, List.map_id']
  | tagged tag value ih => exact congrArg (tagged tag) ih

/-- Tags hold no texts. -/
theorem leaves_untagged (value : Value) : value.untagged.leaves = value.leaves := by
  induction value with
  | null => rfl
  | bool b => rfl
  | number n => rfl
  | string text => rfl
  | sequence items ih => rfl
  | mapping entries ih => rfl
  | tagged tag value ih => exact ih

/-- Under its tags, a value with other texts is the untagged value with them. -/
theorem untagged_mapLeaves (value : Value) :
    (value.mapLeaves f).untagged = value.untagged.mapLeaves f := by
  induction value with
  | null => rfl
  | bool b => rfl
  | number n => rfl
  | string text => rfl
  | sequence items ih => rfl
  | mapping entries ih => rfl
  | tagged tag value ih => exact ih

end Value

namespace Template.Renderer

variable {r : Renderer} {vars resolved : Variables} {value value' : Value} {e : Error}

/-- What a text is rendered to; a text that cannot be rendered stands for itself. -/
def rendered (r : Renderer) (vars : Variables) (text : String) : String :=
  match r.render vars text with
  | .ok out => out
  | .error _ => text

/-- A text that can be rendered is rendered to what it is rendered to. -/
theorem rendered_eq {text out : String} (h : r.render vars text = .ok out) :
    r.rendered vars text = out := by
  rw [rendered, h]

/-- Rendering a value is a walk through the texts inside it, and gives the value with its texts
rendered. -/
theorem renderValue_eq_mapM (r : Renderer) (vars : Variables) (value : Value) :
    r.renderValue vars value =
      (value.leaves.mapM (r.render vars)).map fun _ => value.mapLeaves (r.rendered vars) := by
  induction value with
  | null => rfl
  | bool b => rfl
  | number n => rfl
  | string text =>
    rw [renderValue_string, Value.leaves, Value.mapLeaves, rendered, List.mapM_cons]
    cases r.render vars text with
    | error e => rfl
    | ok out => rfl
  | sequence items ih =>
    rw [renderValue_sequence, mapM_eq_map_flatMap ih, Value.leaves_sequence,
      Value.mapLeaves_sequence]
    cases (items.flatMap Value.leaves).mapM (r.render vars) with
    | error e => rfl
    | ok outs => rfl
  | mapping entries ih =>
    have hkeyed : ∀ entry ∈ entries,
        SortedMap.keyed (fun _ value => r.renderValue vars value) entry =
          (entry.2.leaves.mapM (r.render vars)).map
            fun _ => (entry.1, entry.2.mapLeaves (r.rendered vars)) := by
      intro entry hmem
      rw [SortedMap.keyed, ih entry hmem]
      cases entry.2.leaves.mapM (r.render vars) with
      | error e => rfl
      | ok outs => rfl
    rw [renderValue_mapping, mapM_eq_map_flatMap hkeyed, Value.leaves_mapping,
      Value.mapLeaves_mapping]
    cases (entries.flatMap fun entry => entry.2.leaves).mapM (r.render vars) with
    | error e => rfl
    | ok outs => rfl
  | tagged tag value ih =>
    rw [renderValue_tagged, ih, Value.leaves, Value.mapLeaves]
    cases value.leaves.mapM (r.render vars) with
    | error e => rfl
    | ok outs => rfl

/-- A value can be rendered when all texts inside it can, and is then the value with its texts
rendered. -/
theorem renderValue_eq_ok_iff :
    r.renderValue vars value = .ok value' ↔
      (∀ text ∈ value.leaves, ∃ out, r.render vars text = .ok out) ∧
        value' = value.mapLeaves (r.rendered vars) := by
  rw [renderValue_eq_mapM, except_map_eq_ok_iff, ← exists_mapM_eq_ok_iff]
  constructor
  · rintro ⟨outs, houts, rfl⟩
    exact ⟨⟨outs, houts⟩, rfl⟩
  · rintro ⟨⟨outs, houts⟩, rfl⟩
    exact ⟨outs, houts, rfl⟩

/-- Rendering a value fails with the failure of the first text inside it that cannot be
rendered. -/
theorem renderValue_eq_error_iff :
    r.renderValue vars value = .error e ↔ ∃ before text after,
      value.leaves = before ++ text :: after ∧
        (∀ earlier ∈ before, ∃ out, r.render vars earlier = .ok out) ∧
        r.render vars text = .error e := by
  rw [renderValue_eq_mapM, except_map_eq_error_iff, mapM_eq_error_iff]

/-- A variable is rendered when all texts inside it can be. -/
theorem exists_keyed_renderVariable_iff {entry : String × Value} :
    (∃ entry', SortedMap.keyed (r.renderVariable vars) entry = .ok entry') ↔
      ∀ text ∈ entry.2.leaves, ∃ out, r.render vars text = .ok out := by
  constructor
  · rintro ⟨entry', h⟩
    have hvalue := renderVariable_eq_ok_iff.mp (SortedMap.keyed_eq_ok_iff.mp h).2
    exact (renderValue_eq_ok_iff.mp hvalue).1
  · intro h
    have hvalue : r.renderValue vars entry.2 = .ok (entry.2.mapLeaves (r.rendered vars)) :=
      renderValue_eq_ok_iff.mpr ⟨h, rfl⟩
    exact ⟨(entry.1, entry.2.mapLeaves (r.rendered vars)),
      SortedMap.keyed_eq_ok_iff.mpr ⟨rfl, renderVariable_eq_ok_iff.mpr hvalue⟩⟩

/-- Variables are rendered exactly when every text inside each of them can be rendered with the
variables as they are, and each of them then is the same value with its texts rendered. Otherwise
the failure names the first variable in byte order with a text that cannot be rendered, and its
cause is the failure of the first such text. -/
theorem renderVariables_leaves (r : Renderer) (vars : Variables) :
    ((∃ resolved, r.renderVariables vars = .ok resolved) ↔
      ∀ entry ∈ vars.entries, ∀ text ∈ entry.2.leaves, ∃ out, r.render vars text = .ok out) ∧
    (∀ resolved, r.renderVariables vars = .ok resolved →
      resolved.entries =
        vars.entries.map fun entry => (entry.1, entry.2.mapLeaves (r.rendered vars))) ∧
    ∀ e, r.renderVariables vars = .error e ↔
      ∃ entry ∈ vars.entries, ∃ cause before text after,
        e = .inVariable entry.1 cause ∧ entry.2.leaves = before ++ text :: after ∧
        (∀ earlier ∈ before, ∃ out, r.render vars earlier = .ok out) ∧
        r.render vars text = .error cause ∧
        ∀ other ∈ vars.entries, Text.octets other.1 < Text.octets entry.1 →
          ∀ text ∈ other.2.leaves, ∃ out, r.render vars text = .ok out := by
  refine ⟨?_, ?_, ?_⟩
  · have hwalk : (∃ resolved, r.renderVariables vars = .ok resolved) ↔
        ∃ entries, vars.entries.mapM (SortedMap.keyed (r.renderVariable vars)) = .ok entries := by
      rw [← SortedMap.traverseEntries_eq_mapM]
      exact SortedMap.exists_traverse_eq_ok_iff
    rw [hwalk, exists_mapM_eq_ok_iff]
    exact forall₂_congr fun entry _ => exists_keyed_renderVariable_iff
  · intro resolved h
    rw [renderVariables, SortedMap.traverse_eq_ok_iff, SortedMap.traverseEntries_eq_mapM] at h
    refine eq_map_of_mapM (fun entry _ entry' hstep => ?_) h
    obtain ⟨hkey, hstep⟩ := SortedMap.keyed_eq_ok_iff.mp hstep
    have hvalue := (renderValue_eq_ok_iff.mp (renderVariable_eq_ok_iff.mp hstep)).2
    exact Prod.ext hkey hvalue
  · intro e
    rw [renderVariables, SortedMap.traverse_eq_error_iff, SortedMap.traverseEntries_eq_mapM,
      mapM_eq_error_iff]
    constructor
    · rintro ⟨earlier, entry, later, hentries, hearlier, hfails⟩
      obtain ⟨cause, hvalue, rfl⟩ :=
        renderVariable_eq_error_iff.mp (SortedMap.keyed_eq_error_iff.mp hfails)
      obtain ⟨before, text, after, hleaves, hbefore, htext⟩ := renderValue_eq_error_iff.mp hvalue
      refine ⟨entry, by simp [hentries], cause, before, text, after, rfl, hleaves, hbefore, htext,
        fun other hother hlt => ?_⟩
      -- what comes before the entry in byte order stands before it in the map
      have hmem : other ∈ earlier :=
        (SortedMap.mem_of_entries_eq hentries).mpr ⟨hother, Text.octets_lt_iff.mp hlt⟩
      exact exists_keyed_renderVariable_iff.mp (hearlier other hmem)
    · rintro ⟨entry, hmem, cause, before, text, after, rfl, hleaves, hbefore, htext, hsmaller⟩
      obtain ⟨earlier, later, hentries⟩ := List.append_of_mem hmem
      have hvalue := renderValue_eq_error_iff.mpr ⟨before, text, after, hleaves, hbefore, htext⟩
      refine ⟨earlier, entry, later, hentries, fun other hother => ?_,
        SortedMap.keyed_eq_error_iff.mpr (renderVariable_eq_error_iff.mpr ⟨cause, hvalue, rfl⟩)⟩
      obtain ⟨hmem, hlt⟩ := (SortedMap.mem_of_entries_eq hentries).mp hother
      exact exists_keyed_renderVariable_iff.mpr
        (hsmaller other hmem (Text.octets_lt_iff.mpr hlt))

end Template.Renderer

end LayeredConfig
