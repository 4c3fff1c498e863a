import LayeredConfig.Proofs.Template.RenderedText
import LayeredConfig.Proofs.Template.ResolvedFirst

/-!
# Structures of plain texts

When the texts inside a structure and the values of the variables are plain, and nothing in
them is escaped, every pass keeps the texts inside the structure so. The text of such a
structure is rendered in place, however deep the structure is and however many passes it
takes.
-/

namespace LayeredConfig.Template

open Text

variable {r : Renderer} {vars : Variables} {escape : Char → List Char} {segs : List Segment}

/-- Plain segments of characters that stand for themselves when they are escaped. -/
structure IsVerbatim (r : Renderer) (escape : Char → List Char) (segs : List Segment) : Prop
    extends IsPlain r segs where
  /-- No character is escaped. -/
  unescaped : ∀ c ∈ written r.delimiters segs, escape c = [c]

/-- Every variable is clean, and no character of its text is escaped. -/
structure HasVerbatimVariables (r : Renderer) (escape : Char → List Char) (vars : Variables) : Prop
    extends HasCleanVariables r vars where
  /-- No character of a text is escaped. -/
  unescaped : ∀ entry ∈ vars.entries, ∀ text, entry.2.text? = some text →
    ∀ c ∈ text.toList, escape c = [c]

/-- A text of which no character is escaped is escaped to itself. -/
theorem flatMap_escape_of_unescaped {text : List Char} (h : ∀ c ∈ text, escape c = [c]) :
    text.flatMap escape = text := by
  rw [List.flatMap_congr h, List.flatMap_singleton']

namespace IsVerbatim

/-- A pass keeps segments verbatim. -/
theorem afterPass (h : IsVerbatim r escape segs) (hv : HasVerbatimVariables r escape vars) :
    IsVerbatim r escape (nextSegments r.delimiters vars segs) where
  toIsPlain := h.toIsPlain.afterPass hv.toHasCleanVariables
  unescaped c hc := by
    rw [nextSegments, written_inserted] at hc
    rcases mem_fill hc with hc | ⟨inner, value, -, hvalue, hc⟩
    · exact h.unescaped c hc
    · obtain ⟨entry, hentry, htext⟩ := Variables.exists_mem_of_lookup? hvalue
      exact hv.unescaped entry hentry value htext c hc

/-- Passes keep segments verbatim, and fill the text that they are written by. -/
theorem afterPasses (h : IsVerbatim r escape segs) (hv : HasVerbatimVariables r escape vars)
    (n : ℕ) : ∃ others, IsVerbatim r escape others ∧
      r.filledTimes vars n (written r.delimiters segs) = written r.delimiters others := by
  induction n with
  | zero => exact ⟨segs, h, rfl⟩
  | succ n ih =>
    obtain ⟨others, hothers, hfilled⟩ := ih
    refine ⟨_, hothers.afterPass hv, ?_⟩
    have hcomment := isComment_segmentLines hv.onOneLine hothers.clean hothers.unmarked
    rw [Renderer.filledTimes_succ, hfilled, Renderer.filled,
      unlines_fillLine_written hv.onOneLine hothers.clean hcomment, nextSegments, written_inserted]

/-- The text of verbatim segments is quotable. -/
theorem isQuotable (h : IsVerbatim r escape segs) (hv : HasVerbatimVariables r escape vars) :
    r.IsQuotable vars escape (written r.delimiters segs) := by
  have hline : ∀ line ∈ lines (written r.delimiters segs), ∃ others,
      AllClean r.delimiters others ∧ written r.delimiters others = line ∧
        r.isComment line = false := by
    rw [lines_written hv.onOneLine h.clean, List.forall_mem_map]
    exact fun others hothers => ⟨others, (isCleanLine_segmentLines hv.onOneLine h.clean others
      hothers).1, rfl, isComment_segmentLines hv.onOneLine h.clean h.unmarked others hothers⟩
  have hinner : ∀ line ∈ lines (written r.delimiters segs), ∀ inner,
      .placeholder inner ∈ segments r.delimiters line → inner.flatMap escape = inner := by
    intro line hmem inner hinner
    refine flatMap_escape_of_unescaped fun c hc => h.unescaped c ?_
    refine (mem_of_mem_splitAtChar hmem ?_).1
    rw [← written_segments r.delimiters line, written, List.mem_flatMap]
    exact ⟨_, hinner, by simp [Segment.written, hc]⟩
  refine ⟨?_, fun c hc => ?_, ?_, ?_, ?_⟩
  · intro line hmem last hlast
    obtain ⟨others, hclean, hwritten, -⟩ := hline line hmem
    have hsegments := isCleanText_iff.mp ⟨others, hclean, hwritten⟩
    exact cut?_opening_eq_none (hsegments _ (List.mem_of_getLast? hlast))
  · have hself := h.unescaped c hc
    exact ⟨fun _ => hself, fun hunused => by simp [hself, hunused]⟩
  · intro line hmem inner hplaceholder
    rw [hinner line hmem inner hplaceholder]
  · intro line hmem inner value _ hvalue
    rw [placeholderText?] at hvalue
    split at hvalue
    · rename_i text htext
      cases hvalue
      obtain ⟨entry, hentry, htext⟩ := Variables.exists_mem_of_lookup? htext
      exact flatMap_escape_of_unescaped (hv.unescaped entry hentry text htext)
    · cases hvalue
  · intro line hmem hcomment
    obtain ⟨-, -, -, hplain⟩ := hline line hmem
    rw [hplain] at hcomment
    cases hcomment

end IsVerbatim

/-- The characters that the text of a structure can begin with. -/
def structureHeads : List Char := ['[', '\x7b', 'S', 'M']

/-- The text of a structure begins with the same character whatever the texts in it are. -/
theorem exists_structureHead {value : Value}
    (h : (∃ items, value = .sequence items) ∨ ∃ entries, value = .mapping entries) :
    ∃ c ∈ structureHeads, ∀ f, ∃ rest, (value.mapLeaves f).structureText.toList = c :: rest := by
  have hpieces : ∃ c ∈ structureHeads, ∃ front rest,
      (Layout.of value).pieces value = .bare (c :: front) :: rest := by
    rw [Layout.of]
    obtain ⟨items, rfl⟩ | ⟨entries, rfl⟩ := h
    · cases Json.ofValue? (.sequence items) with
      | ok document => exact ⟨'[', by decide, _, _, rfl⟩
      | error e => exact ⟨'S', by decide, _, _, rfl⟩
    · cases Json.ofValue? (.mapping entries) with
      | ok document => exact ⟨'\x7b', by decide, _, _, rfl⟩
      | error e => exact ⟨'M', by decide, _, _, rfl⟩
  obtain ⟨c, hc, front, rest, hpieces⟩ := hpieces
  refine ⟨c, hc, fun f => ?_⟩
  rw [Renderer.toList_structureText_mapLeaves, hpieces]
  exact ⟨_, rfl⟩

/-- A line whose first character is no blank, and not the first of the marker, is no comment. -/
theorem isComment_cons_eq_false {c : Char} (hblank : isBlank c = false)
    (hhead : r.commentMarker.head? ≠ some c) (rest : List Char) :
    r.isComment (c :: rest) = false := by
  obtain ⟨others, htrim⟩ := exists_trim_cons hblank rest
  rw [Renderer.isComment, htrim]
  cases hmarker : r.commentMarker with
  | nil => rfl
  | cons m marker =>
    rw [hmarker] at hhead
    have hne : m ≠ c := fun hsame => hhead (congrArg some hsame)
    simp [List.isPrefixOf, hne]

/-- A structure of verbatim texts is rendered in place with verbatim variables, if around the texts
every opening is closed and nothing is filled, and no text of a structure begins a comment. -/
theorem rendersInPlace_of_isVerbatim {value : Value}
    (hstructure : (∃ items, value = .sequence items) ∨ ∃ entries, value = .mapping entries)
    (hquote : ¬ r.delimiters.Uses '"')
    (hmarker : ∀ c, r.commentMarker.head? = some c → c ∉ structureHeads)
    (around : ∀ stretch ∈ stretches [] ((Layout.of value).pieces value), '\n' ∉ stretch ∧
      AllClosed r.delimiters stretch ∧
        (segments r.delimiters stretch).any (Renderer.isFilled vars) = false)
    (hv : HasVerbatimVariables r (Layout.of value).escape vars)
    (hleaves : ∀ text ∈ value.leaves,
      IsVerbatim r (Layout.of value).escape (segments r.delimiters text.toList)) :
    r.RendersInPlace vars value := by
  refine ⟨hquote, around, fun n _ => ?_, fun text htext n _ => ?_⟩
  · obtain ⟨c, hc, hbegins⟩ := exists_structureHead hstructure
    obtain ⟨rest, hrest⟩ := hbegins (r.filledText vars n)
    have hblank : ∀ c ∈ structureHeads, isBlank c = false := by
      simp only [structureHeads, List.forall_mem_cons, List.not_mem_nil, false_imp_iff,
        implies_true, and_true]
      decide
    rw [hrest]
    exact isComment_cons_eq_false (hblank c hc) (fun hhead => hmarker c hhead hc) rest
  · obtain ⟨others, hothers, hfilled⟩ := (hleaves text htext).afterPasses hv n
    rw [written_segments] at hfilled
    rw [Renderer.filledText, String.toList_ofList, hfilled]
    exact hothers.isQuotable hv

end LayeredConfig.Template
