import LayeredConfig.Proofs.Template.Convergence
import LayeredConfig.Proofs.Template.RenderedValues
import Mathlib.Logic.Function.Iterate

/-!
# Resolving before rendering

A pass puts the segments of a value in the place of every placeholder that has one. As
clean segments stay apart, what becomes of a text is what becomes of its segments, each on
its own. So it does not matter whether the values are rendered first and put in at the
end, or are put in first and rendered where they stand; only the second way may take more
passes than are made, for a text that is one reference further away.
-/

namespace LayeredConfig.Template

variable {d : Delimiters} {r : Renderer} {vars resolved : Variables} {segs : List Segment}

/-! ## What becomes of segments -/

/-- The segments after one more pass. -/
def nextSegments (d : Delimiters) (vars : Variables) (segs : List Segment) : List Segment :=
  segs.flatMap (insertedSegments d vars)

/-- The segments after a number of passes. -/
@[irreducible] -- the bound on passes is not to be counted down when terms are compared
def unfolded (d : Delimiters) (vars : Variables) (n : ℕ) (segs : List Segment) : List Segment :=
  (nextSegments d vars)^[n] segs

/-- Every placeholder names a variable with a value. -/
def AllDefined (vars : Variables) (segs : List Segment) : Prop :=
  ∀ inner, .placeholder inner ∈ segs → (placeholderText? vars inner).isSome

/-- No placeholder names a variable with a value. -/
def NoneDefined (vars : Variables) (segs : List Segment) : Prop :=
  ∀ inner, .placeholder inner ∈ segs → placeholderText? vars inner = none

/-- No pass is made. -/
@[simp] theorem unfolded_zero (segs : List Segment) : unfolded d vars 0 segs = segs := by
  rw [unfolded, Function.iterate_zero, id]

/-- The first of the passes is made before the others. -/
theorem unfolded_succ (n : ℕ) (segs : List Segment) :
    unfolded d vars (n + 1) segs = unfolded d vars n (nextSegments d vars segs) := by
  rw [unfolded, unfolded, Function.iterate_succ_apply]

/-- A single placeholder becomes the segments of its value. -/
theorem nextSegments_placeholder {inner : List Char} {value : String}
    (h : vars.lookup? (placeholderName inner) = some value) :
    nextSegments d vars [.placeholder inner] = segments d value.toList := by
  rw [nextSegments, List.flatMap_singleton, insertedSegments, h]

/-- Passes treat every segment on its own. -/
theorem unfolded_eq_flatMap (n : ℕ) (segs : List Segment) :
    unfolded d vars n segs = segs.flatMap fun seg => unfolded d vars n [seg] := by
  induction n generalizing segs with
  | zero => simp
  | succ n ih =>
    have hseg : ∀ seg, unfolded d vars (n + 1) [seg] =
        (insertedSegments d vars seg).flatMap fun part => unfolded d vars n [part] := by
      intro seg
      rw [unfolded_succ, nextSegments, List.flatMap_singleton, ih]
    rw [unfolded_succ, nextSegments, ih, List.flatMap_assoc]
    exact List.flatMap_congr fun seg _ => (hseg seg).symm

/-- What there is after passes came from one of the segments. -/
theorem mem_unfolded_iff {n : ℕ} {part : Segment} :
    part ∈ unfolded d vars n segs ↔ ∃ seg ∈ segs, part ∈ unfolded d vars n [seg] := by
  rw [unfolded_eq_flatMap, List.mem_flatMap]

/-- Segments without a placeholder that has a value stay as they are. -/
theorem NoneDefined.nextSegments_eq (h : NoneDefined vars segs) :
    nextSegments d vars segs = segs := by
  have hself : ∀ seg ∈ segs, insertedSegments d vars seg = [seg] := by
    intro seg hseg
    cases seg with
    | literal text => rfl
    | placeholder inner =>
      have hnone := h inner hseg
      rw [← Option.not_isSome_iff_eq_none, isSome_placeholderText?,
        Option.not_isSome_iff_eq_none] at hnone
      rw [insertedSegments, hnone]
  rw [nextSegments, List.flatMap_congr hself, List.flatMap_singleton']

/-- Once no placeholder has a value, further passes change nothing. -/
theorem NoneDefined.unfolded_eq (h : NoneDefined vars segs) (n : ℕ) :
    unfolded d vars n segs = segs := by
  rw [unfolded]
  exact Function.iterate_fixed h.nextSegments_eq n

/-- Once no placeholder has a value, more passes have the same outcome. -/
theorem NoneDefined.unfolded_of_le {n m : ℕ} (h : NoneDefined vars (unfolded d vars n segs))
    (hle : n ≤ m) : unfolded d vars m segs = unfolded d vars n segs := by
  obtain ⟨k, rfl⟩ := Nat.exists_eq_add_of_le' hle
  rw [unfolded, Function.iterate_add_apply, ← unfolded, ← unfolded]
  exact h.unfolded_eq k

/-- No placeholder has a value exactly when no segment is filled. -/
theorem noneDefined_iff : NoneDefined vars segs ↔ segs.any (Renderer.isFilled vars) = false := by
  rw [← Bool.not_eq_true, Renderer.any_isFilled_iff, NoneDefined]
  simp only [not_exists, not_and, Option.not_isSome_iff_eq_none]

/-! ## Clean variables -/

/-- The value is null, or it stands for a text that is clean. The text of a truth value or a
number has no character of the delimiters. -/
def CleanValue (d : Delimiters) : Value → Prop
  | .null => True
  | .bool b => ∀ c ∈ (Value.boolText b).toList, ¬ d.Uses c
  | .number n => ∀ c ∈ (Value.numberText n).toList, ¬ d.Uses c
  | .string text => IsCleanText d text.toList
  | .tagged _ value => CleanValue d value
  | .sequence _ => False
  | .mapping _ => False

instance (d : Delimiters) (text : List Char) : Decidable (IsCleanText d text) :=
  decidable_of_iff _ isCleanText_iff.symm

instance decidableCleanValue (d : Delimiters) : (value : Value) → Decidable (CleanValue d value)
  | .null => .isTrue trivial
  | .bool b => List.decidableBAll (fun c => ¬ d.Uses c) (Value.boolText b).toList
  | .number n => List.decidableBAll (fun c => ¬ d.Uses c) (Value.numberText n).toList
  | .string text => inferInstanceAs (Decidable (IsCleanText d text.toList))
  | .tagged _ value => decidableCleanValue d value
  | .sequence _ => .isFalse id
  | .mapping _ => .isFalse id

/-- Every variable is clean, and its text does not have the first character of the comment
marker. -/
structure HasCleanVariables (r : Renderer) (vars : Variables) : Prop where
  /-- The delimiters stand on one line. -/
  onOneLine : r.delimiters.OnOneLine
  /-- Every value is clean. -/
  clean : ∀ entry ∈ vars.entries, CleanValue r.delimiters entry.2
  /-- The first character of the comment marker stands in the text of no value. -/
  unmarked : ∀ c, r.commentMarker.head? = some c → ∀ entry ∈ vars.entries, ∀ text,
    entry.2.text? = some text → c ∉ text.toList

/-- Clean segments in which no comment line can begin. -/
structure IsPlain (r : Renderer) (segs : List Segment) : Prop where
  /-- The segments are clean. -/
  clean : AllClean r.delimiters segs
  /-- The first character of the comment marker is not written. -/
  unmarked : ∀ c, r.commentMarker.head? = some c → c ∉ written r.delimiters segs

/-- The text of a clean value is clean. -/
theorem CleanValue.isCleanText {value : Value} (h : CleanValue d value) {text : String}
    (htext : value.text? = some text) : IsCleanText d text.toList := by
  induction value with
  | null => cases htext
  | bool b =>
    cases htext
    exact isCleanText_of_literal h
  | number n =>
    cases htext
    exact isCleanText_of_literal h
  | string s =>
    cases htext
    exact h
  | sequence items => exact h.elim
  | mapping entries => exact h.elim
  | tagged tag value ih => exact ih h htext

/-- The text of a clean variable is read as plain segments. -/
theorem HasCleanVariables.isPlain_segments (hv : HasCleanVariables r vars) {name value : String}
    (h : vars.lookup? name = some value) : IsPlain r (segments r.delimiters value.toList) := by
  obtain ⟨entry, hentry, htext⟩ := Variables.exists_mem_of_lookup? h
  refine ⟨isCleanText_iff.mp ((hv.clean entry hentry).isCleanText htext), fun c hm => ?_⟩
  rw [written_segments]
  exact hv.unmarked c hm entry hentry value htext

/-! ## Passes over plain segments -/

namespace IsPlain

/-- A pass keeps segments plain. -/
theorem afterPass (h : IsPlain r segs) (hv : HasCleanVariables r vars) :
    IsPlain r (nextSegments r.delimiters vars segs) where
  clean := allClean_inserted h.clean fun inner _ value hl =>
    isCleanText_iff.mpr (hv.isPlain_segments hl).clean
  unmarked c hm hc := by
    rw [nextSegments, written_inserted] at hc
    rcases mem_fill hc with hc | ⟨inner, value, -, hl, hc⟩
    · exact h.unmarked c hm hc
    · have hnot := (hv.isPlain_segments hl).unmarked c hm
      rw [written_segments] at hnot
      exact hnot hc

/-- Passes keep segments plain. -/
theorem afterPasses (h : IsPlain r segs) (hv : HasCleanVariables r vars) (n : ℕ) :
    IsPlain r (unfolded r.delimiters vars n segs) := by
  induction n generalizing segs with
  | zero => rwa [unfolded_zero]
  | succ n ih =>
    rw [unfolded_succ]
    exact ih (h.afterPass hv)

/-- A pass over plain segments gives the next ones, unless the renderer is strict and a
placeholder has no value. -/
theorem pass_eq_ok_iff (h : IsPlain r segs) (hd : r.delimiters.OnOneLine)
    {result : Substitution} :
    r.pass vars (written r.delimiters segs) = .ok result ↔
      (r.requireAll = true → AllDefined vars segs) ∧
      result = ⟨written r.delimiters (nextSegments r.delimiters vars segs),
        segs.any (Renderer.isFilled vars)⟩ := by
  rw [nextSegments, written_inserted]
  exact Renderer.pass_written_iff hd h.clean h.unmarked

/-- Passes that the renderer does not object to go on with the next segments while a placeholder
has a value, and end with the segments when none has. -/
theorem passes_succ (h : IsPlain r segs) (hd : r.delimiters.OnOneLine)
    (hdefined : r.requireAll = true → AllDefined vars segs) (n : ℕ) :
    r.passes vars (n + 1) (written r.delimiters segs) =
      if segs.any (Renderer.isFilled vars) then
        r.passes vars n (written r.delimiters (nextSegments r.delimiters vars segs))
      else .ok (written r.delimiters segs) := by
  rw [Renderer.passes, (h.pass_eq_ok_iff hd).mpr ⟨hdefined, rfl⟩]
  cases hfilled : segs.any (Renderer.isFilled vars) with
  | true => rfl
  | false => simp [(noneDefined_iff.mpr hfilled).nextSegments_eq]

/-- Passes of a strict renderer that come to an end begin with placeholders that have values. -/
theorem allDefined_of_passes (h : IsPlain r segs) (hd : r.delimiters.OnOneLine) {n : ℕ}
    {out : List Char} (hok : r.passes vars n (written r.delimiters segs) = .ok out) :
    r.requireAll = true → AllDefined vars segs := by
  cases n with
  | zero => cases hok
  | succ n =>
    rw [Renderer.passes] at hok
    split at hok
    · cases hok
    · rename_i result hpass
      exact ((h.pass_eq_ok_iff hd).mp hpass).1

/-- What passes come to: no placeholder in it has a value, and a strict renderer meets none
without one on the way, however many passes are made. -/
theorem unfolded_of_passes (h : IsPlain r segs) (hv : HasCleanVariables r vars) {n : ℕ}
    {out : List Char} (hok : r.passes vars n (written r.delimiters segs) = .ok out) :
    out = written r.delimiters (unfolded r.delimiters vars n segs) ∧
      NoneDefined vars (unfolded r.delimiters vars n segs) ∧
      (r.requireAll = true → ∀ m, AllDefined vars (unfolded r.delimiters vars m segs)) := by
  induction n generalizing segs with
  | zero => cases hok
  | succ n ih =>
    have hdefined := h.allDefined_of_passes hv.onOneLine hok
    rw [h.passes_succ hv.onOneLine hdefined] at hok
    split at hok
    · obtain ⟨hout, hnone, hall⟩ := ih (h.afterPass hv) hok
      rw [unfolded_succ]
      refine ⟨hout, hnone, fun hstrict m => ?_⟩
      cases m with
      | zero =>
        rw [unfolded_zero]
        exact hdefined hstrict
      | succ m =>
        rw [unfolded_succ]
        exact hall hstrict m
    · rename_i hfilled
      -- nothing has been replaced, so the segments are what they come to already
      have hnone : NoneDefined vars segs := noneDefined_iff.mpr (by simpa using hfilled)
      cases hok
      rw [hnone.unfolded_eq]
      refine ⟨rfl, hnone, fun hstrict m => ?_⟩
      rw [hnone.unfolded_eq]
      exact hdefined hstrict

/-- Passes that meet no placeholder to object to fail only because they do not come to an end. -/
theorem eq_didNotConverge_of_passes (h : IsPlain r segs) (hv : HasCleanVariables r vars) {n : ℕ}
    (hdefined : r.requireAll = true → ∀ m, AllDefined vars (unfolded r.delimiters vars m segs))
    {e : Error} (he : r.passes vars n (written r.delimiters segs) = .error e) :
    e = .didNotConverge maxPasses := by
  induction n generalizing segs with
  | zero =>
    cases he
    rfl
  | succ n ih =>
    have hfirst : r.requireAll = true → AllDefined vars segs := fun hstrict => by
      simpa using hdefined hstrict 0
    rw [h.passes_succ hv.onOneLine hfirst] at he
    split at he
    · refine ih (h.afterPass hv) (fun hstrict m => ?_) he
      rw [← unfolded_succ]
      exact hdefined hstrict (m + 1)
    · cases he

end IsPlain

/-! ## Variables that are rendered first -/

/-- The text of a clean value that is rendered is its text rendered. -/
theorem CleanValue.text?_of_renderValue {value value' : Value} (h : CleanValue r.delimiters value)
    (hvalue : r.renderValue vars value = .ok value') {text : String}
    (htext : value.text? = some text) :
    ∃ text', value'.text? = some text' ∧ r.render vars text = .ok text' := by
  induction value generalizing value' with
  | null => cases htext
  | bool b =>
    cases hvalue
    cases htext
    exact ⟨_, rfl, Renderer.render_of_isSettled (Renderer.isSettled_of_literal h)⟩
  | number n =>
    cases hvalue
    cases htext
    exact ⟨_, rfl, Renderer.render_of_isSettled (Renderer.isSettled_of_literal h)⟩
  | string s =>
    cases htext
    rw [Renderer.renderValue_string] at hvalue
    obtain ⟨text', hrender, rfl⟩ := except_map_eq_ok_iff.mp hvalue
    exact ⟨text', rfl, hrender⟩
  | sequence items => exact h.elim
  | mapping entries => exact h.elim
  | tagged tag value ih =>
    rw [Renderer.renderValue_tagged] at hvalue
    obtain ⟨inner, hinner, rfl⟩ := except_map_eq_ok_iff.mp hvalue
    rw [Value.text?]
    exact ih h hinner htext

/-- The same placeholders have a value when the variables are rendered. -/
theorem isSome_placeholderText?_of_renderVariables (h : r.renderVariables vars = .ok resolved)
    (inner : List Char) :
    (placeholderText? resolved inner).isSome = (placeholderText? vars inner).isSome := by
  rw [isSome_placeholderText?, isSome_placeholderText?]
  exact Renderer.isSome_lookup?_of_renderVariables h _

/-- Rendered variables define the same placeholders. -/
theorem allDefined_resolved_iff (h : r.renderVariables vars = .ok resolved) :
    AllDefined resolved segs ↔ AllDefined vars segs := by
  simp only [AllDefined, isSome_placeholderText?_of_renderVariables h]

/-- Rendered variables define no more placeholders. -/
theorem noneDefined_resolved_iff (h : r.renderVariables vars = .ok resolved) :
    NoneDefined resolved segs ↔ NoneDefined vars segs := by
  simp only [NoneDefined, ← Option.not_isSome_iff_eq_none,
    isSome_placeholderText?_of_renderVariables h]

/-- One pass with the resolved variables makes of a segment what all passes with the variables
make of it. -/
structure ResolvesAtOnce (r : Renderer) (vars resolved : Variables) (seg : Segment) : Prop where
  /-- What one pass with the resolved variables gives is what all passes come to. -/
  fill_eq : r.fillSegment resolved seg =
    written r.delimiters (unfolded r.delimiters vars (maxPasses + 1) [seg])
  /-- No placeholder that is left has a value. -/
  noneDefined : NoneDefined vars (unfolded r.delimiters vars (maxPasses + 1) [seg])
  /-- A strict renderer that finds a value for the segment finds one for all that follow. -/
  allDefined : r.requireAll = true → AllDefined vars [seg] →
    ∀ m, AllDefined vars (unfolded r.delimiters vars m [seg])

/-- A segment that stands for no value stays as it is. -/
theorem resolvesAtOnce_of_noneDefined (h : r.renderVariables vars = .ok resolved) {seg : Segment}
    (hnone : NoneDefined vars [seg]) : ResolvesAtOnce r vars resolved seg := by
  have hunfilled := noneDefined_iff.mp ((noneDefined_resolved_iff h).mpr hnone)
  have hfill := Renderer.fillSegment_of_isFilled_eq_false (r := r) (by simpa using hunfilled)
  refine ⟨?_, by rwa [hnone.unfolded_eq], fun _ hdefined m => by rwa [hnone.unfolded_eq]⟩
  rw [hnone.unfolded_eq, hfill, written, List.flatMap_singleton]

namespace HasCleanVariables

/-- The text of a rendered variable is the text of the variable rendered. -/
theorem lookup?_of_renderVariables (hv : HasCleanVariables r vars)
    (h : r.renderVariables vars = .ok resolved) {name value : String}
    (hvalue : vars.lookup? name = some value) :
    ∃ value', resolved.lookup? name = some value' ∧ r.render vars value = .ok value' := by
  rw [Variables.lookup?] at hvalue ⊢
  rcases SortedMap.get?_traverse h name with ⟨hold, -⟩ | ⟨old, new, hold, hstep, hnew⟩
  · rw [hold] at hvalue
    cases hvalue
  · rw [hold] at hvalue
    rw [hnew]
    exact (hv.clean _ (SortedMap.mem_of_findEntry hold)).text?_of_renderValue
      (Renderer.renderVariable_eq_ok_iff.mp hstep) hvalue

/-- A placeholder with a value becomes what the value is rendered to. -/
theorem resolvesAtOnce_placeholder (hv : HasCleanVariables r vars)
    (h : r.renderVariables vars = .ok resolved) {inner : List Char} {value : String}
    (hvalue : vars.lookup? (placeholderName inner) = some value) :
    ResolvesAtOnce r vars resolved (.placeholder inner) := by
  obtain ⟨value', hvalue', hrender⟩ := hv.lookup?_of_renderVariables h hvalue
  rw [Renderer.render_eq_map] at hrender
  obtain ⟨out, hpasses, rfl⟩ := except_map_eq_ok_iff.mp hrender
  rw [← written_segments r.delimiters value.toList] at hpasses
  obtain ⟨hout, hend, hall⟩ := (hv.isPlain_segments hvalue).unfolded_of_passes hv hpasses
  have hunfolded : ∀ n, unfolded r.delimiters vars (n + 1) [.placeholder inner] =
      unfolded r.delimiters vars n (segments r.delimiters value.toList) := by
    intro n
    rw [unfolded_succ, nextSegments_placeholder hvalue]
  refine ⟨?_, by rwa [hunfolded], fun hstrict hdefined m => ?_⟩
  · rw [hunfolded, ← hout, Renderer.fillSegment, placeholderText?, hvalue']
    exact String.toList_ofList
  · cases m with
    | zero => rwa [unfolded_zero]
    | succ m =>
      rw [hunfolded]
      exact hall hstrict m

/-- Every segment becomes at once what all passes make of it. -/
theorem resolvesAtOnce (hv : HasCleanVariables r vars)
    (h : r.renderVariables vars = .ok resolved) (seg : Segment) :
    ResolvesAtOnce r vars resolved seg := by
  by_cases hnone : NoneDefined vars [seg]
  · exact resolvesAtOnce_of_noneDefined h hnone
  · simp only [NoneDefined, not_forall, ← ne_eq, Option.ne_none_iff_isSome,
      isSome_placeholderText?] at hnone
    obtain ⟨inner, hinner, hsome⟩ := hnone
    obtain ⟨value, hvalue⟩ := Option.isSome_iff_exists.mp hsome
    rw [← List.mem_singleton.mp hinner]
    exact hv.resolvesAtOnce_placeholder h hvalue

/-- One pass with rendered variables makes of segments what all passes come to. -/
theorem fill_resolved (hv : HasCleanVariables r vars)
    (h : r.renderVariables vars = .ok resolved) (segs : List Segment) :
    segs.flatMap (r.fillSegment resolved) =
      written r.delimiters (unfolded r.delimiters vars (maxPasses + 1) segs) := by
  rw [unfolded_eq_flatMap, written, List.flatMap_assoc]
  exact List.flatMap_congr fun seg _ => (hv.resolvesAtOnce h seg).fill_eq

/-- When variables are rendered, no placeholder that passes come to has a value. -/
theorem noneDefined_unfolded (hv : HasCleanVariables r vars)
    (h : r.renderVariables vars = .ok resolved) (segs : List Segment) :
    NoneDefined vars (unfolded r.delimiters vars (maxPasses + 1) segs) := by
  intro inner hinner
  obtain ⟨seg, -, hinner⟩ := mem_unfolded_iff.mp hinner
  exact (hv.resolvesAtOnce h seg).noneDefined inner hinner

/-- When variables are rendered by a strict renderer and the placeholders of segments have
values, passes meet no placeholder without one. -/
theorem allDefined_unfolded (hv : HasCleanVariables r vars)
    (h : r.renderVariables vars = .ok resolved) (hstrict : r.requireAll = true)
    (hdefined : AllDefined vars segs) (m : ℕ) :
    AllDefined vars (unfolded r.delimiters vars m segs) := by
  intro inner hinner
  obtain ⟨seg, hseg, hinner⟩ := mem_unfolded_iff.mp hinner
  have hone : AllDefined vars [seg] := by
    intro name hname
    rw [← List.mem_singleton.mp hname] at hseg
    exact hdefined name hseg
  exact (hv.resolvesAtOnce h seg).allDefined hstrict hone m inner hinner

end HasCleanVariables

section Resolved

variable (hp : IsPlain r segs) (hv : HasCleanVariables r vars)
  (h : r.renderVariables vars = .ok resolved)

include hp hv h

/-- A pass with rendered variables over plain segments gives what passes come to, unless the
renderer is strict and a placeholder has no value. -/
theorem IsPlain.pass_resolved {result : Substitution} :
    r.pass resolved (written r.delimiters segs) = .ok result ↔
      (r.requireAll = true → AllDefined vars segs) ∧
      result = ⟨written r.delimiters (unfolded r.delimiters vars (maxPasses + 1) segs),
        segs.any (Renderer.isFilled resolved)⟩ := by
  rw [← hv.fill_resolved h, ← allDefined_resolved_iff h]
  exact Renderer.pass_written_iff hv.onOneLine hp.clean hp.unmarked

/-- What passes come to is settled with the rendered variables. -/
theorem IsPlain.isSettled_unfolded (hdefined : r.requireAll = true → AllDefined vars segs) :
    r.IsSettled resolved
      (written r.delimiters (unfolded r.delimiters vars (maxPasses + 1) segs)) := by
  have hplain := hp.afterPasses hv (maxPasses + 1)
  have hnone := hv.noneDefined_unfolded h segs
  intro inner hinner
  have hmem := (Renderer.hasPlaceholder_written_iff hv.onOneLine hplain.clean
    hplain.unmarked).mp hinner
  refine ⟨?_, (noneDefined_resolved_iff h).mpr hnone inner hmem⟩
  cases hmode : r.requireAll with
  | false => rfl
  | true =>
    -- a strict renderer would have met a placeholder that has no value
    have hsome := hv.allDefined_unfolded h hmode (hdefined hmode) (maxPasses + 1) inner hmem
    rw [hnone inner hmem] at hsome
    cases hsome

/-- Rendering plain segments with rendered variables gives what passes come to, unless the
renderer is strict and a placeholder has no value. -/
theorem IsPlain.passes_resolved {n : ℕ} {out : List Char} :
    r.passes resolved (n + 2) (written r.delimiters segs) = .ok out ↔
      (r.requireAll = true → AllDefined vars segs) ∧
      out = written r.delimiters (unfolded r.delimiters vars (maxPasses + 1) segs) := by
  cases hpass : r.pass resolved (written r.delimiters segs) with
  | error e =>
    constructor
    · intro hok
      rw [Renderer.passes, hpass] at hok
      cases hok
    · rintro ⟨hdefined, -⟩
      rw [(hp.pass_resolved hv h).mpr ⟨hdefined, rfl⟩] at hpass
      cases hpass
  | ok result =>
    obtain ⟨hdefined, rfl⟩ := (hp.pass_resolved hv h).mp hpass
    rw [Renderer.passes_of_pass hpass (hp.isSettled_unfolded hv h hdefined), Except.ok.injEq]
    exact ⟨fun hout => ⟨hdefined, hout.symm⟩, fun hout => hout.2.symm⟩

end Resolved

/-- What rendering a clean text with its variables gives, rendering it with the rendered variables
gives as well. What that gives is there after one pass, and rendering the text with the variables
themselves gives the same or takes too many passes. -/
theorem render_of_renderVariables {text : String} (hv : HasCleanVariables r vars)
    (htext : IsCleanText r.delimiters text.toList)
    (hmarker : ∀ c, r.commentMarker.head? = some c → c ∉ text.toList)
    (h : r.renderVariables vars = .ok resolved) :
    (∀ out, r.render vars text = .ok out → r.render resolved text = .ok out) ∧
    ∀ out, r.render resolved text = .ok out →
      (r.render vars text = .ok out ∨ r.render vars text = .error (.didNotConverge 30)) ∧
      ∃ changed, r.substituteOnce resolved text = .ok (out, changed) := by
  obtain ⟨segs, hclean, hwritten⟩ := htext
  rw [← hwritten] at hmarker
  have hp : IsPlain r segs := ⟨hclean, hmarker⟩
  have hresolved : ∀ out, r.passes resolved maxPasses (written r.delimiters segs) = .ok out ↔ _ :=
    fun _ => hp.passes_resolved hv h
  simp only [Renderer.render_eq_map, except_map_eq_ok_iff, except_map_eq_error_iff, ← hwritten]
  constructor
  · rintro _ ⟨out, hpasses, rfl⟩
    obtain ⟨hout, hnone, hall⟩ := hp.unfolded_of_passes hv hpasses
    refine ⟨out, (hresolved out).mpr ⟨fun hstrict => ?_, ?_⟩, rfl⟩
    · simpa using hall hstrict 0
    · rw [hnone.unfolded_of_le (Nat.le_succ _), hout]
  · rintro _ ⟨out, hpasses, rfl⟩
    obtain ⟨hdefined, hout⟩ := (hresolved out).mp hpasses
    constructor
    · cases hdirect : r.passes vars maxPasses (written r.delimiters segs) with
      | ok direct =>
        obtain ⟨hdirect, hnone, -⟩ := hp.unfolded_of_passes hv hdirect
        rw [hnone.unfolded_of_le (Nat.le_succ _), ← hdirect] at hout
        exact .inl ⟨direct, rfl, congrArg String.ofList hout.symm⟩
      | error e =>
        have hall := fun hstrict => hv.allDefined_unfolded h hstrict (hdefined hstrict)
        exact .inr (congrArg Except.error (hp.eq_didNotConverge_of_passes hv hall hdirect))
    · rw [Renderer.substituteOnce, ← hwritten, (hp.pass_resolved hv h).mpr ⟨hdefined, rfl⟩, hout]
      exact ⟨_, rfl⟩

/-- Thirty variables, each of which refers to the next one, up to the last. Their names are
characters in a row. -/
def chainVariables : Variables :=
  .ofList <| (List.range 30).reverse.map fun n => (String.ofList [Char.ofNat (65 + n)], .string <|
    if n = 29 then "end" else
      .ofList ['\x7b', '\x7b', Char.ofNat (66 + n), '\x7d', '\x7d'])

/-- The chain is followed from its second link on. From its first link on it is one reference too
long, except when the variables are rendered first. -/
theorem render_chain :
    HasCleanVariables standardRenderer chainVariables ∧
    standardRenderer.render chainVariables "\x7b\x7bA\x7d\x7d" = .error (.didNotConverge 30) ∧
    ∃ resolved, standardRenderer.renderVariables chainVariables = .ok resolved ∧
      standardRenderer.render resolved "\x7b\x7bB\x7d\x7d" = .ok "end" ∧
      standardRenderer.render resolved "\x7b\x7bA\x7d\x7d" = .ok "end" ∧
      ∃ changed, standardRenderer.substituteOnce resolved "\x7b\x7bA\x7d\x7d" =
        .ok ("end", changed) := by
  have hhash : ∀ c, standardRenderer.commentMarker.head? = some c → c = '#' :=
    fun c hc => (Option.some.inj hc).symm
  have hentries : ∀ entry ∈ chainVariables.entries, ∀ text ∈ entry.2.text?,
      '#' ∉ text.toList := by decide +kernel
  have hvariables : HasCleanVariables standardRenderer chainVariables :=
    ⟨by decide +kernel, by decide +kernel, fun c hc => hhash c hc ▸ hentries⟩
  have htexts : ∀ text ∈ ["\x7b\x7bA\x7d\x7d", "\x7b\x7bB\x7d\x7d"],
      IsCleanText standardRenderer.delimiters text.toList ∧ '#' ∉ text.toList := by
    decide +kernel
  have hdirect : standardRenderer.render chainVariables "\x7b\x7bB\x7d\x7d" = .ok "end" := by
    decide +kernel
  have hrun : ((standardRenderer.renderVariables chainVariables).bind fun resolved =>
      .ok <| decide <| (standardRenderer.render resolved "\x7b\x7bA\x7d\x7d").toOption =
        some "end").toOption = some true := by
    decide +kernel
  obtain ⟨resolved, hresolved, hrun⟩ := exists_of_toOption_bind hrun
  have hfirst := eq_ok_of_toOption (of_decide_eq_true (Option.some.inj hrun))
  obtain ⟨hclean, hplain⟩ := htexts "\x7b\x7bB\x7d\x7d" (by simp)
  obtain ⟨hsecond, -⟩ := render_of_renderVariables hvariables hclean
    (fun c hc => hhash c hc ▸ hplain) hresolved
  obtain ⟨hclean, hplain⟩ := htexts "\x7b\x7bA\x7d\x7d" (by simp)
  obtain ⟨-, honce⟩ := render_of_renderVariables hvariables hclean
    (fun c hc => hhash c hc ▸ hplain) hresolved
  exact ⟨hvariables, by decide +kernel, resolved, hresolved, hsecond _ hdirect, hfirst,
    (honce _ hfirst).2⟩

end LayeredConfig.Template
