import LayeredConfig.Proofs.Template.References

/-!
# Rendering a clean text

A pass over a clean text with defined variables takes one reference from every
chain and leaves the full expansion as it was. So passes end after as many
changes as the longest chain has references, with the full expansion, and a
chain as long as the bound on passes, or a cycle, makes rendering give up.
-/

namespace LayeredConfig.Template

variable {d : Delimiters} {vars : Variables}

/-! ## Full expansions -/

/-- Segments in a row expand one after the other. -/
theorem expandsTo_append_iff {front back : List Segment} {out : List Char} :
    ExpandsTo d vars (front ++ back) out ↔
      ∃ first second, out = first ++ second ∧ ExpandsTo d vars front first ∧
        ExpandsTo d vars back second := by
  induction front generalizing out with
  | nil =>
    constructor
    · intro h
      exact ⟨[], out, rfl, .nil, h⟩
    · rintro ⟨first, second, rfl, ⟨⟩, h⟩
      exact h
  | cons seg front ih =>
    constructor
    · intro h
      cases h with
      | literal text h =>
        obtain ⟨first, second, rfl, hf, hs⟩ := ih.mp h
        exact ⟨text ++ first, second, by simp, .literal text hf, hs⟩
      | placeholder hv hc hw he h =>
        obtain ⟨first, second, rfl, hf, hs⟩ := ih.mp h
        exact ⟨_, second, (List.append_assoc ..).symm, .placeholder hv hc hw he hf, hs⟩
    · rintro ⟨first, second, rfl, hf, hs⟩
      cases hf with
      | literal text hf =>
        rw [List.append_assoc]
        exact .literal text (ih.mpr ⟨_, _, rfl, hf, hs⟩)
      | placeholder hv hc hw he hf =>
        rw [List.append_assoc]
        exact .placeholder hv hc hw he (ih.mpr ⟨_, _, rfl, hf, hs⟩)

/-- A single literal expands to itself. -/
theorem expandsTo_literal_iff {text out : List Char} :
    ExpandsTo d vars [.literal text] out ↔ out = text := by
  constructor
  · rintro (_ | ⟨_, ⟨⟩⟩)
    exact List.append_nil _
  · rintro rfl
    have hnil : ExpandsTo d vars [] [] := .nil
    simpa using ExpandsTo.literal out hnil

/-- A single placeholder expands to the full expansion of its value. -/
theorem expandsTo_placeholder_iff {inner out : List Char} :
    ExpandsTo d vars [.placeholder inner] out ↔
      ∃ value, vars.lookup? (placeholderName inner) = some value ∧
        IsFullExpansion d vars value.toList out := by
  constructor
  · intro h
    cases h with
    | placeholder hv hc hw he h =>
      cases h
      rw [List.append_nil]
      exact ⟨_, hv, _, hc, hw, he⟩
  · rintro ⟨value, hv, parts, hc, hw, he⟩
    simpa using ExpandsTo.placeholder hv hc hw he .nil

/-- Replacing every segment by segments of the same expansions keeps the expansions. -/
theorem expandsTo_flatMap_iff {g : Segment → List Segment} {segs : List Segment}
    (hg : ∀ seg ∈ segs, ∀ out, ExpandsTo d vars (g seg) out ↔ ExpandsTo d vars [seg] out)
    {out : List Char} :
    ExpandsTo d vars (segs.flatMap g) out ↔ ExpandsTo d vars segs out := by
  induction segs generalizing out with
  | nil => rfl
  | cons seg segs ih =>
    have hrest : ∀ out, ExpandsTo d vars (segs.flatMap g) out ↔ ExpandsTo d vars segs out :=
      fun out => ih fun other hother => hg other (List.mem_cons_of_mem _ hother)
    have hseg := hg seg List.mem_cons_self
    rw [List.flatMap_cons, ← List.singleton_append (l := segs), expandsTo_append_iff,
      expandsTo_append_iff]
    simp only [hrest, hseg]

/-- A segment with its literal divided into characters. -/
def Segment.divided : Segment → List Segment
  | .literal text => text.map fun c => .literal [c]
  | .placeholder inner => [.placeholder inner]

/-- A literal divided into characters expands to itself. -/
theorem expandsTo_divided_iff (seg : Segment) {out : List Char} :
    ExpandsTo d vars seg.divided out ↔ ExpandsTo d vars [seg] out := by
  cases seg with
  | placeholder inner => rfl
  | literal text =>
    rw [expandsTo_literal_iff, Segment.divided]
    induction text generalizing out with
    | nil =>
      constructor
      · rintro ⟨⟩
        rfl
      · rintro rfl
        exact .nil
    | cons c text ih =>
      rw [List.map_cons, ← List.singleton_append, expandsTo_append_iff]
      simp only [expandsTo_literal_iff, ih]
      constructor
      · rintro ⟨_, _, rfl, rfl, rfl⟩
        rfl
      · rintro rfl
        exact ⟨[c], text, rfl, rfl, rfl⟩

/-- Clean segments that write the same text have the same expansions. -/
theorem expandsTo_of_written_eq {segs others : List Segment} (hs : AllClean d segs)
    (ho : AllClean d others) (hw : written d segs = written d others) {out : List Char}
    (h : ExpandsTo d vars segs out) : ExpandsTo d vars others out := by
  have hd : IgnoresDivision Segment.divided := fun _ _ => List.map_append
  have hsame := flatMap_eq_of_written_eq hd hs ho hw
  have hdivide : ∀ list out, ExpandsTo d vars (list.flatMap Segment.divided) out ↔
      ExpandsTo d vars list out :=
    fun list out => expandsTo_flatMap_iff fun seg _ _ => expandsTo_divided_iff seg
  rw [← hdivide, ← hsame, hdivide]
  exact h

/-- Clean segments write a text with their own expansions. -/
theorem isFullExpansion_written_iff {segs : List Segment} (hc : AllClean d segs)
    {out : List Char} :
    IsFullExpansion d vars (written d segs) out ↔ ExpandsTo d vars segs out := by
  constructor
  · rintro ⟨others, ho, hw, he⟩
    exact expandsTo_of_written_eq ho hc hw he
  · intro he
    exact ⟨segs, hc, rfl, he⟩

/-- Segments have at most one expansion. -/
theorem ExpandsTo.unique {segs : List Segment} {out other : List Char}
    (h : ExpandsTo d vars segs out) (ho : ExpandsTo d vars segs other) : out = other := by
  induction h generalizing other with
  | nil =>
    cases ho
    rfl
  | literal text _ ih =>
    cases ho with
    | literal _ ho => rw [ih ho]
  | placeholder hv hc hw _ _ ihe ih =>
    cases ho with
    | placeholder hv' hc' hw' he' ho =>
      obtain rfl := Option.some.inj (hv.symm.trans hv')
      rw [ihe (expandsTo_of_written_eq hc' hc (hw'.trans hw.symm) he'), ih ho]

/-- A text has at most one full expansion. -/
theorem IsFullExpansion.unique {text out other : List Char}
    (h : IsFullExpansion d vars text out) (ho : IsFullExpansion d vars text other) :
    out = other := by
  obtain ⟨segs, hc, rfl, he⟩ := h
  exact he.unique ((isFullExpansion_written_iff hc).mp ho)

/-! ## One pass -/

/-- Dividing literals keeps segments clean. -/
theorem allClean_divided_iff {segs : List Segment} :
    AllClean d (segs.flatMap Segment.divided) ↔ AllClean d segs := by
  have hseg : ∀ seg : Segment, AllClean d seg.divided ↔ seg.IsClean d := by
    intro seg
    cases seg with
    | placeholder inner => simp [AllClean, Segment.divided]
    | literal text => simp [AllClean, Segment.divided, Segment.IsClean]
  simp only [AllClean, List.forall_mem_flatMap] at hseg ⊢
  exact forall₂_congr fun seg _ => hseg seg

/-- A text is clean when the segments it is read as are. -/
theorem isCleanText_iff {text : List Char} :
    IsCleanText d text ↔ AllClean d (segments d text) := by
  have hd : IgnoresDivision Segment.divided := fun _ _ => List.map_append
  constructor
  · rintro ⟨segs, hc, rfl⟩
    rw [← allClean_divided_iff, flatMap_segments_written hd hc, allClean_divided_iff]
    exact hc
  · intro hc
    exact ⟨_, hc, written_segments d text⟩

/-- The segments that a pass puts in the place of a segment. -/
def insertedSegments (d : Delimiters) (vars : Variables) : Segment → List Segment
  | .literal text => [.literal text]
  | .placeholder inner =>
    match vars.lookup? (placeholderName inner) with
    | some value => segments d value.toList
    | none => [.placeholder inner]

/-- Every placeholder names a variable with a clean value. -/
def HasCleanValues (d : Delimiters) (vars : Variables) (segs : List Segment) : Prop :=
  ∀ inner, .placeholder inner ∈ segs →
    ∃ value, vars.lookup? (placeholderName inner) = some value ∧ IsCleanText d value.toList

/-- Every value that a placeholder stands for is clean. -/
def InsertsClean (d : Delimiters) (vars : Variables) (segs : List Segment) : Prop :=
  ∀ inner, .placeholder inner ∈ segs → ∀ value,
    vars.lookup? (placeholderName inner) = some value → IsCleanText d value.toList

/-- Placeholders with clean values stand for clean values. -/
theorem HasCleanValues.insertsClean {segs : List Segment} (h : HasCleanValues d vars segs) :
    InsertsClean d vars segs := by
  intro inner hinner value hvalue
  obtain ⟨other, hother, hclean⟩ := h inner hinner
  rw [hvalue, Option.some.injEq] at hother
  exact hother ▸ hclean

section Insertion

variable {segs : List Segment}

/-- What is inserted for clean segments is clean. -/
theorem allClean_inserted (hc : AllClean d segs) (hv : InsertsClean d vars segs) :
    AllClean d (segs.flatMap (insertedSegments d vars)) := by
  intro part hp
  obtain ⟨seg, hs, hp⟩ := List.mem_flatMap.mp hp
  cases seg with
  | literal text =>
    obtain rfl := List.mem_singleton.mp hp
    exact hc _ hs
  | placeholder inner =>
    rw [insertedSegments] at hp
    split at hp
    · rename_i value hl
      exact isCleanText_iff.mp (hv inner hs value hl) part hp
    · obtain rfl := List.mem_singleton.mp hp
      exact hc _ hs

/-- What is inserted for a segment is written as the segment after a pass. -/
theorem written_insertedSegments (r : Renderer) (vars : Variables) (seg : Segment) :
    written r.delimiters (insertedSegments r.delimiters vars seg) = r.fillSegment vars seg := by
  cases seg with
  | literal text => simp [insertedSegments, Segment.written, Renderer.fillSegment]
  | placeholder inner =>
    rw [insertedSegments, Renderer.fillSegment, placeholderText?]
    cases vars.lookup? (placeholderName inner) with
    | none => simp
    | some value => exact written_segments _ _

/-- What is inserted is written as the segments after a pass. -/
theorem written_inserted (r : Renderer) (vars : Variables) (segs : List Segment) :
    written r.delimiters (segs.flatMap (insertedSegments r.delimiters vars)) =
      segs.flatMap (r.fillSegment vars) := by
  rw [written, List.flatMap_assoc]
  exact List.flatMap_congr fun seg _ => written_insertedSegments r vars seg

/-- The characters after a pass come from the text or from a value that is inserted. -/
theorem mem_fill {r : Renderer} {c : Char} (h : c ∈ segs.flatMap (r.fillSegment vars)) :
    c ∈ written r.delimiters segs ∨ ∃ inner value, .placeholder inner ∈ segs ∧
      vars.lookup? (placeholderName inner) = some value ∧ c ∈ value.toList := by
  obtain ⟨seg, hs, hc⟩ := List.mem_flatMap.mp h
  cases seg with
  | literal text => exact .inl (List.mem_flatMap.mpr ⟨_, hs, hc⟩)
  | placeholder inner =>
    rw [Renderer.fillSegment, placeholderText?] at hc
    cases hl : vars.lookup? (placeholderName inner) with
    | none =>
      rw [hl] at hc
      exact .inl (List.mem_flatMap.mpr ⟨_, hs, hc⟩)
    | some value =>
      rw [hl] at hc
      exact .inr ⟨inner, value, hs, hl, hc⟩

/-- A pass keeps the expansions. -/
theorem expandsTo_inserted_iff (hv : HasCleanValues d vars segs) {out : List Char} :
    ExpandsTo d vars (segs.flatMap (insertedSegments d vars)) out ↔
      ExpandsTo d vars segs out := by
  refine expandsTo_flatMap_iff fun seg hs out => ?_
  cases seg with
  | literal text => rfl
  | placeholder inner =>
    obtain ⟨value, hl, hclean⟩ := hv inner hs
    have hread := isCleanText_iff.mp hclean
    rw [insertedSegments, hl, expandsTo_placeholder_iff, ← isFullExpansion_written_iff hread,
      written_segments]
    constructor
    · intro h
      exact ⟨value, hl, h⟩
    · rintro ⟨other, ho, h⟩
      obtain rfl := Option.some.inj (hl.symm.trans ho)
      exact h

/-- After a pass the text refers to what the values referred to. -/
theorem refers_inserted_iff (hc : AllClean d segs) (hv : HasCleanValues d vars segs)
    (name : String) :
    Refers d (written d (segs.flatMap (insertedSegments d vars))) name ↔
      ∃ via value, Refers d (written d segs) via ∧ vars.lookup? via = some value ∧
        Refers d value.toList name := by
  rw [refers_written_iff (allClean_inserted hc hv.insertsClean)]
  simp only [refers_written_iff hc, List.mem_flatMap]
  have hvalue : ∀ value : String, IsCleanText d value.toList →
      (Refers d value.toList name ↔ ∃ inner, .placeholder inner ∈ segments d value.toList ∧
        placeholderName inner = name) := by
    intro value hclean
    rw [← refers_written_iff (isCleanText_iff.mp hclean), written_segments]
  constructor
  · rintro ⟨inner, ⟨seg, hs, hp⟩, hn⟩
    cases seg with
    | literal text => cases List.mem_singleton.mp hp
    | placeholder outer =>
      obtain ⟨value, hl, hclean⟩ := hv outer hs
      rw [insertedSegments, hl] at hp
      exact ⟨_, value, ⟨outer, hs, rfl⟩, hl, (hvalue value hclean).mpr ⟨inner, hp, hn⟩⟩
  · rintro ⟨_, value, ⟨outer, hs, rfl⟩, hl, href⟩
    obtain ⟨other, ho, hclean⟩ := hv outer hs
    obtain rfl := Option.some.inj (hl.symm.trans ho)
    obtain ⟨inner, hp, hn⟩ := (hvalue value hclean).mp href
    refine ⟨inner, ⟨_, hs, ?_⟩, hn⟩
    rw [insertedSegments, hl]
    exact hp

end Insertion

end LayeredConfig.Template
