import LayeredConfig.Proofs.Outcome
import LayeredConfig.Proofs.Template.CleanPass

/-!
# Texts that are settled

Where the placeholders of a text stand depends on the delimiters and the comment
marker alone. A text is settled when the renderer puts up with every placeholder
in it: the renderer is lenient and the variable has no value. A pass leaves a
text unchanged exactly when it is settled, so rendering ends in a settled text,
and a strict renderer ends in one without placeholders outside comments.
-/

namespace LayeredConfig.Template.Renderer

open Text

variable {r : Renderer} {vars : Variables} {line text out : List Char}

/-- A placeholder stands in the text, outside its comment lines. -/
def HasPlaceholder (r : Renderer) (text inner : List Char) : Prop :=
  ∃ line ∈ lines text, .placeholder inner ∈ r.lineSegments line

/-- The renderer puts up with every placeholder of the text. -/
def IsSettled (r : Renderer) (vars : Variables) (text : List Char) : Prop :=
  ∀ inner, r.HasPlaceholder text inner →
    r.requireAll = false ∧ placeholderText? vars inner = none

/-! ## Lines in which nothing is replaced -/

/-- The written segments of a line are the line, also when it is a comment. -/
theorem flatMap_written_lineSegments (r : Renderer) (line : List Char) :
    (r.lineSegments line).flatMap (Segment.written r.delimiters) = line := by
  rw [lineSegments]
  split
  · simp [Segment.written]
  · exact flatMap_written_segments r.delimiters line

/-- A segment of a line is written with characters of the line. -/
theorem mem_of_mem_written {seg : Segment} {c : Char} (hseg : seg ∈ r.lineSegments line)
    (hc : c ∈ seg.written r.delimiters) : c ∈ line := by
  rw [← flatMap_written_lineSegments r line]
  exact List.mem_flatMap.mpr ⟨seg, hseg, hc⟩

/-- A segment that is not filled stands as it is written. -/
theorem fillSegment_of_isFilled_eq_false {seg : Segment} (h : isFilled vars seg = false) :
    r.fillSegment vars seg = seg.written r.delimiters := by
  cases seg with
  | literal text => rfl
  | placeholder inner =>
    have hnone : placeholderText? vars inner = none := by simpa [isFilled] using h
    rw [fillSegment, hnone]

/-- A line in which nothing is replaced stays. -/
theorem fillLine_of_changesLine_eq_false (h : r.changesLine vars line = false) :
    r.fillLine vars line = line := by
  have hsegments : (r.lineSegments line).map (r.fillSegment vars) =
      (r.lineSegments line).map (Segment.written r.delimiters) := by
    refine List.map_congr_left fun seg hseg => fillSegment_of_isFilled_eq_false ?_
    have hnone := List.any_eq_false.mp h seg hseg
    simpa using hnone
  have hwritten := flatMap_written_lineSegments r line
  rw [fillLine, List.flatMap_def, hsegments, ← List.flatMap_def, hwritten]

/-- Some segment is filled when one of the placeholders has a value. -/
theorem any_isFilled_iff {segs : List Segment} :
    segs.any (isFilled vars) = true ↔
      ∃ inner, .placeholder inner ∈ segs ∧ (placeholderText? vars inner).isSome := by
  rw [List.any_eq_true]
  constructor
  · rintro ⟨seg, hseg, hfilled⟩
    cases seg with
    | literal text => cases hfilled
    | placeholder inner => exact ⟨inner, hseg, hfilled⟩
  · rintro ⟨inner, hinner, hsome⟩
    exact ⟨_, hinner, hsome⟩

/-- A line is changed when one of its placeholders has a value. -/
theorem changesLine_eq_true_iff :
    r.changesLine vars line = true ↔
      ∃ inner, .placeholder inner ∈ r.lineSegments line ∧
        (placeholderText? vars inner).isSome :=
  any_isFilled_iff

/-- A line misses nothing when all of its placeholders have a value. -/
theorem missingNames_eq_nil_iff :
    r.missingNames vars line = [] ↔
      ∀ inner, .placeholder inner ∈ r.lineSegments line →
        (placeholderText? vars inner).isSome := by
  rw [missingNames, List.filterMap_eq_nil_iff]
  constructor
  · intro h inner hinner
    have hname := h _ hinner
    cases hvalue : placeholderText? vars inner with
    | some value => rfl
    | none => simp [missingName?, hvalue] at hname
  · intro h seg hseg
    cases seg with
    | literal text => rfl
    | placeholder inner =>
      obtain ⟨value, hvalue⟩ := Option.isSome_iff_exists.mp (h inner hseg)
      simp [missingName?, hvalue]

/-! ## Passes over a whole text -/

/-- Nothing is missing in lines exactly when no line misses anything. -/
theorem missingFrom_eq_nil_iff {texts : List (List Char)} {number : Nat} :
    r.missingFrom vars number texts = [] ↔ ∀ line ∈ texts, r.missingNames vars line = [] := by
  induction texts generalizing number with
  | nil => simp [missingFrom]
  | cons line rest ih =>
    rw [missingFrom, List.append_eq_nil_iff, List.map_eq_nil_iff, ih, List.forall_mem_cons]

/-- The renderer objects to nothing unless it is strict and a placeholder has no value. -/
theorem missingIn_eq_nil_iff :
    r.missingIn vars text = [] ↔
      (r.requireAll = true → ∀ inner, r.HasPlaceholder text inner →
        (placeholderText? vars inner).isSome) := by
  rw [missingIn]
  cases r.requireAll with
  | false => simp
  | true =>
    simp only [if_true, missingFrom_eq_nil_iff, missingNames_eq_nil_iff, HasPlaceholder,
      forall_const]
    constructor
    · rintro h inner ⟨line, hline, hinner⟩
      exact h line hline inner hinner
    · intro h line hline inner hinner
      exact h inner ⟨line, hline, hinner⟩

/-- A pass changes a text when one of its placeholders has a value. -/
theorem any_changesLine_iff :
    (lines text).any (r.changesLine vars) = true ↔
      ∃ inner, r.HasPlaceholder text inner ∧ (placeholderText? vars inner).isSome := by
  rw [List.any_eq_true]
  simp only [changesLine_eq_true_iff, HasPlaceholder]
  constructor
  · rintro ⟨line, hline, inner, hinner, hsome⟩
    exact ⟨inner, ⟨line, hline, hinner⟩, hsome⟩
  · rintro ⟨inner, ⟨line, hline, hinner⟩, hsome⟩
    exact ⟨line, hline, inner, hinner, hsome⟩

/-- A pass over a text to which the renderer does not object fills every line. -/
theorem pass_eq_ok_iff {result : Substitution} :
    r.pass vars text = .ok result ↔
      r.missingIn vars text = [] ∧
        result = ⟨unlines ((lines text).map (r.fillLine vars)),
          (lines text).any (r.changesLine vars)⟩ := by
  rw [pass]
  cases r.missingIn vars text with
  | nil => simp [eq_comm]
  | cons m more => simp

/-- A pass that finds nothing to replace gives the text back. -/
theorem unlines_fillLine_of_unchanged (h : (lines text).any (r.changesLine vars) = false) :
    unlines ((lines text).map (r.fillLine vars)) = text := by
  have hlines : (lines text).map (r.fillLine vars) = (lines text).map id := by
    refine List.map_congr_left fun line hline => ?_
    have hsame := List.any_eq_false.mp h line hline
    exact fillLine_of_changesLine_eq_false (by simpa using hsame)
  rw [hlines, List.map_id, unlines_lines]

/-- A pass leaves a text unchanged exactly when the text is settled. -/
theorem pass_eq_unchanged_iff :
    r.pass vars text = .ok ⟨out, false⟩ ↔ out = text ∧ r.IsSettled vars text := by
  have hunfilled : (lines text).any (r.changesLine vars) = false ↔
      ∀ inner, r.HasPlaceholder text inner → placeholderText? vars inner = none := by
    rw [← Bool.not_eq_true, any_changesLine_iff]
    simp only [not_exists, not_and, Option.not_isSome_iff_eq_none]
  rw [pass_eq_ok_iff, Substitution.mk.injEq, missingIn_eq_nil_iff]
  constructor
  · rintro ⟨hmissing, hout, hunchanged⟩
    have hnone := hunfilled.mp hunchanged.symm
    refine ⟨by rw [hout, unlines_fillLine_of_unchanged hunchanged.symm], ?_⟩
    intro inner hinner
    refine ⟨?_, hnone inner hinner⟩
    cases hmode : r.requireAll with
    | false => rfl
    | true =>
      -- a strict renderer would have objected to this placeholder
      have hsome := hmissing hmode inner hinner
      rw [hnone inner hinner] at hsome
      cases hsome
  · rintro ⟨rfl, hsettled⟩
    have hunchanged := hunfilled.mpr fun inner hinner => (hsettled inner hinner).2
    refine ⟨?_, (unlines_fillLine_of_unchanged hunchanged).symm, hunchanged.symm⟩
    intro hstrict inner hinner
    rw [(hsettled inner hinner).1] at hstrict
    cases hstrict

/-- A text without characters of the delimiters is settled. -/
theorem isSettled_of_literal (h : ∀ c ∈ text, ¬ r.delimiters.Uses c) :
    r.IsSettled vars text := by
  rintro inner ⟨line, hline, hinner⟩
  have hread : segments r.delimiters line = [.literal line] :=
    segments_of_unopened (cut?_opening_eq_none fun c hc =>
      h c (mem_of_mem_splitAtChar hline hc).1)
  rw [lineSegments, hread, ite_self, List.mem_singleton] at hinner
  cases hinner

/-! ## Passes over clean segments -/

section Clean

variable {segs : List Segment} {inner : List Char}

/-- The placeholders of a clean text without comments are those it is written by. -/
theorem hasPlaceholder_written_iff (hd : r.delimiters.OnOneLine)
    (hc : AllClean r.delimiters segs)
    (hcomment : ∀ c, r.commentMarker.head? = some c → c ∉ written r.delimiters segs) :
    r.HasPlaceholder (written r.delimiters segs) inner ↔ .placeholder inner ∈ segs := by
  have hread : ∀ line ∈ segmentLines segs,
      (.placeholder inner ∈ r.lineSegments (written r.delimiters line) ↔
        .placeholder inner ∈ line) := fun line hline =>
    mem_lineSegments_iff (isCleanLine_segmentLines hd hc line hline).1
      (isComment_segmentLines hd hc hcomment line hline) inner
  rw [HasPlaceholder, lines_written hd hc, ← mem_segmentLines_iff]
  constructor
  · rintro ⟨text, htext, hinner⟩
    obtain ⟨line, hline, rfl⟩ := List.mem_map.mp htext
    exact ⟨line, hline, (hread line hline).mp hinner⟩
  · rintro ⟨line, hline, hinner⟩
    exact ⟨_, List.mem_map_of_mem hline, (hread line hline).mpr hinner⟩

/-- A pass over clean segments without comments fills every segment, unless the renderer is strict
and a placeholder has no value. -/
theorem pass_written_iff (hd : r.delimiters.OnOneLine) (hc : AllClean r.delimiters segs)
    (hcomment : ∀ c, r.commentMarker.head? = some c → c ∉ written r.delimiters segs)
    {result : Substitution} :
    r.pass vars (written r.delimiters segs) = .ok result ↔
      (r.requireAll = true → ∀ inner, .placeholder inner ∈ segs →
        (placeholderText? vars inner).isSome) ∧
      result = ⟨segs.flatMap (r.fillSegment vars), segs.any (isFilled vars)⟩ := by
  have hplaceholder := fun inner => @hasPlaceholder_written_iff r segs inner hd hc hcomment
  have hchanged : (lines (written r.delimiters segs)).any (r.changesLine vars) =
      segs.any (isFilled vars) := by
    rw [Bool.eq_iff_iff, any_changesLine_iff, any_isFilled_iff]
    simp only [hplaceholder]
  rw [pass_eq_ok_iff, missingIn_eq_nil_iff, hchanged,
    unlines_fillLine_written hd hc (isComment_segmentLines hd hc hcomment)]
  simp only [hplaceholder]

end Clean

/-! ## Rendering ends in a settled text -/

/-- Passes that come to an end leave a settled text. -/
theorem isSettled_of_passes {n : Nat} (h : r.passes vars n text = .ok out) :
    r.IsSettled vars out := by
  induction n generalizing text with
  | zero => cases h
  | succ n ih =>
    rw [passes] at h
    split at h
    · cases h
    · rename_i result hpass
      obtain ⟨next, changed⟩ := result
      cases changed with
      | true => exact ih h
      | false =>
        cases h
        obtain ⟨rfl, hsettled⟩ := pass_eq_unchanged_iff.mp hpass
        exact hsettled

/-- What a rendering gives is settled. -/
theorem isSettled_of_render {text out : String} (h : r.render vars text = .ok out) :
    r.IsSettled vars out.toList := by
  rw [render] at h
  split at h
  · rename_i result hpasses
    cases h
    rw [String.toList_ofList]
    exact isSettled_of_passes hpasses
  · cases h

/-- One pass over a settled text gives it back. -/
theorem substituteOnce_of_isSettled {text : String} (h : r.IsSettled vars text.toList) :
    r.substituteOnce vars text = .ok (text, false) := by
  rw [substituteOnce, pass_eq_unchanged_iff.mpr ⟨rfl, h⟩]
  simp

/-- Passes over a settled text give it back. -/
theorem passes_of_isSettled (h : r.IsSettled vars text) (n : Nat) :
    r.passes vars (n + 1) text = .ok text := by
  rw [passes, pass_eq_unchanged_iff.mpr ⟨rfl, h⟩]
  rfl

/-- Passes end with what the first one gives when that is settled. -/
theorem passes_of_pass {result : Substitution} (hpass : r.pass vars text = .ok result)
    (h : r.IsSettled vars result.text) (n : Nat) :
    r.passes vars (n + 2) text = .ok result.text := by
  rw [passes, hpass]
  cases hchanged : result.changed with
  | true => simp [hchanged, passes_of_isSettled h]
  | false => simp [hchanged]

/-- Rendering a settled text gives it back. -/
theorem render_of_isSettled {text : String} (h : r.IsSettled vars text.toList) :
    r.render vars text = .ok text := by
  rw [render, renderChars, maxPasses, passes_of_isSettled h]
  simp

/-- A text that a strict renderer is settled with has no placeholder. -/
theorem not_hasPlaceholder_of_isSettled (h : r.IsSettled vars text) (hstrict : r.requireAll = true)
    (inner : List Char) : ¬ r.HasPlaceholder text inner := by
  intro hinner
  rw [(h inner hinner).1] at hstrict
  cases hstrict

/-- What a rendering gives is not changed by another pass, and not by another rendering. What a
strict rendering gives has no placeholder outside its comment lines, so no pass changes it,
whatever the variables are. -/
theorem substituteOnce_of_render {text out : String} (h : r.render vars text = .ok out) :
    r.substituteOnce vars out = .ok (out, false) ∧
    r.render vars out = .ok out ∧
    (r.requireAll = true →
      (∀ line ∈ lines out.toList, r.isComment line = false → ∀ inner,
        .placeholder inner ∉ segments r.delimiters line) ∧
      ∀ others, r.substituteOnce others out = .ok (out, false)) := by
  have hsettled := isSettled_of_render h
  refine ⟨substituteOnce_of_isSettled hsettled, render_of_isSettled hsettled, ?_⟩
  intro hstrict
  have hnone := not_hasPlaceholder_of_isSettled hsettled hstrict
  constructor
  · intro line hline hplain inner hinner
    refine hnone inner ⟨line, hline, ?_⟩
    rw [lineSegments, hplain]
    exact hinner
  · intro others
    exact substituteOnce_of_isSettled fun inner hinner => absurd hinner (hnone inner)

/-- Half an opening, and a value that ends in a comment line. -/
def splicedVariables : Variables :=
  .ofList [("half", .string "\x7b"), ("name", .string "1\n# \x7b\x7bgone\x7d\x7d")]

/-- The value of the first placeholder opens the second one, whose own value hides a third one
in a comment line. What results is not changed, whatever the variables are. -/
theorem substituteOnce_spliced :
    ∃ r : Renderer, Renderer.ofMarkup? .standard true = .ok r ∧
      r.render splicedVariables "\x7b\x7bhalf\x7d\x7d\x7bname\x7d\x7d" =
        .ok "1\n# \x7b\x7bgone\x7d\x7d" ∧
      ∀ others, r.substituteOnce others "1\n# \x7b\x7bgone\x7d\x7d" =
        .ok ("1\n# \x7b\x7bgone\x7d\x7d", false) := by
  have hrun : ((Renderer.ofMarkup? .standard true).bind fun r => .ok <| decide <|
      r.requireAll = true ∧
      (r.render splicedVariables "\x7b\x7bhalf\x7d\x7d\x7bname\x7d\x7d").toOption =
        some "1\n# \x7b\x7bgone\x7d\x7d").toOption = some true := by
    decide +kernel
  obtain ⟨r, hr, hrun⟩ := exists_of_toOption_bind hrun
  obtain ⟨hstrict, hrender⟩ := of_decide_eq_true (Option.some.inj hrun)
  have hok := eq_ok_of_toOption hrender
  obtain ⟨-, -, hfixed⟩ := substituteOnce_of_render hok
  exact ⟨r, hr, hok, (hfixed hstrict).2⟩

end LayeredConfig.Template.Renderer
