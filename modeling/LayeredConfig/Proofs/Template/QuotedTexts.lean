import LayeredConfig.Proofs.Template.ClosedLines
import LayeredConfig.Proofs.Template.Filling
import LayeredConfig.Proofs.Value.Spelling

/-!
# Passes over the text of a structure

The text of a structure holds the texts inside the structure in quotes and escaped. A pass
over it fills each of them as a pass over the text itself does, as long as each of their
lines closes what it opens, escaping does not disturb the delimiters, names and inserted
values need no escaping, and no comment line asks for a value: quoted, it is no comment.
-/

namespace LayeredConfig.Template.Renderer

open Text

variable {r : Renderer} {vars : Variables} {escape : Char → List Char} {line text : List Char}
  {pieces : List Piece}

/-- A text that is filled a number of times. -/
def filledText (r : Renderer) (vars : Variables) (n : ℕ) (text : String) : String :=
  String.ofList (r.filledTimes vars n text.toList)

/-! ## Lines that are filled alike when they are escaped -/

/-- A text is filled alike whether it is escaped or not. -/
structure IsQuotable (r : Renderer) (vars : Variables) (escape : Char → List Char)
    (text : List Char) : Prop where
  /-- Every opening is closed on its line. -/
  closed : ∀ line ∈ lines text, AllClosed r.delimiters line
  /-- Escaping does not disturb the delimiters. -/
  apart : ∀ c ∈ text, EscapesApart r.delimiters escape c
  /-- An escaped name has the value that the name has. -/
  named : ∀ line ∈ lines text, ∀ inner, .placeholder inner ∈ segments r.delimiters line →
    placeholderText? vars (inner.flatMap escape) = placeholderText? vars inner
  /-- A value that is inserted needs no escaping. -/
  inserted : ∀ line ∈ lines text, ∀ inner value,
    .placeholder inner ∈ segments r.delimiters line → placeholderText? vars inner = some value →
      value.flatMap escape = value
  /-- Comment lines ask for no value. -/
  comments : ∀ line ∈ lines text, r.isComment line = true →
    (segments r.delimiters line).any (isFilled vars) = false

/-- A text is quotable when escaping keeps its characters apart from the delimiters and each of its
lines meets the conditions on it. -/
theorem isQuotable_iff :
    r.IsQuotable vars escape text ↔ (∀ c ∈ text, EscapesApart r.delimiters escape c) ∧
      ∀ line ∈ lines text, AllClosed r.delimiters line ∧
        (∀ inner ∈ (segments r.delimiters line).flatMap Segment.inner,
          placeholderText? vars (inner.flatMap escape) = placeholderText? vars inner ∧
          ∀ value ∈ placeholderText? vars inner, value.flatMap escape = value) ∧
        (r.isComment line = true → (segments r.delimiters line).any (isFilled vars) = false) := by
  simp only [mem_flatMap_inner]
  constructor
  · intro h
    refine ⟨h.apart, fun line hline => ⟨h.closed line hline, fun inner hinner => ?_,
      h.comments line hline⟩⟩
    exact ⟨h.named line hline inner hinner, fun value => h.inserted line hline inner value hinner⟩
  · rintro ⟨hapart, hlines⟩
    exact {
      closed := fun line hline => (hlines line hline).1
      apart := hapart
      named := fun line hline inner hinner => ((hlines line hline).2.1 inner hinner).1
      inserted := fun line hline inner value hinner =>
        ((hlines line hline).2.1 inner hinner).2 value
      comments := fun line hline => (hlines line hline).2.2 }

instance (r : Renderer) (vars : Variables) (escape : Char → List Char) (text : List Char) :
    Decidable (r.IsQuotable vars escape text) :=
  haveI : Decidable (∀ c ∈ text, EscapesApart r.delimiters escape c) := List.decidableBAll _ _
  decidable_of_iff _ isQuotable_iff.symm

/-- Segments of which none is filled are filled with what they are written by. -/
theorem flatMap_fillSegment_of_any_eq_false
    (h : (segments r.delimiters line).any (isFilled vars) = false) :
    (segments r.delimiters line).flatMap (r.fillSegment vars) = line := by
  calc (segments r.delimiters line).flatMap (r.fillSegment vars)
      = (segments r.delimiters line).flatMap (Segment.written r.delimiters) := by
        refine List.flatMap_congr fun seg hseg => fillSegment_of_isFilled_eq_false ?_
        simpa using List.any_eq_false.mp h seg hseg
    _ = line := flatMap_written_segments r.delimiters line

/-- The characters of the delimiters around a placeholder stand for themselves. -/
theorem flatMap_escape_written {inner : List Char}
    (hinner : .placeholder inner ∈ segments r.delimiters line)
    (hapart : ∀ c ∈ line, EscapesApart r.delimiters escape c) :
    ((Segment.placeholder inner).written r.delimiters).flatMap escape =
      (Segment.placeholder (inner.flatMap escape)).written r.delimiters := by
  have hline : ∀ c ∈ (Segment.placeholder inner).written r.delimiters, c ∈ line := by
    intro c hc
    rw [← flatMap_written_segments r.delimiters line, List.mem_flatMap]
    exact ⟨_, hinner, hc⟩
  have hopening : r.delimiters.opening.flatMap escape = r.delimiters.opening :=
    flatMap_escape_of_uses (fun c hc => .inl hc) fun c hc =>
      hapart c (hline c (by simp [Segment.written, hc]))
  have hclosing : r.delimiters.closing.flatMap escape = r.delimiters.closing :=
    flatMap_escape_of_uses (fun c hc => .inr hc) fun c hc =>
      hapart c (hline c (by simp [Segment.written, hc]))
  simp [Segment.written, hopening, hclosing]

/-- An escaped line of a quotable text is filled as the line is. -/
theorem IsQuotable.flatMap_fillSegment (h : r.IsQuotable vars escape text)
    (hline : line ∈ lines text) :
    (segments r.delimiters (line.flatMap escape)).flatMap (r.fillSegment vars) =
      (r.fillLine vars line).flatMap escape := by
  have hapart : ∀ c ∈ line, EscapesApart r.delimiters escape c := fun c hc =>
    h.apart c (mem_of_mem_splitAtChar hline hc).1
  have hfill : ∀ seg ∈ segments r.delimiters line,
      r.fillSegment vars (seg.escaped escape) = (r.fillSegment vars seg).flatMap escape := by
    intro seg hseg
    cases seg with
    | literal text => rfl
    | placeholder inner =>
      have hnamed := h.named line hline inner hseg
      rw [Segment.escaped, fillSegment, fillSegment, hnamed]
      cases hvalue : placeholderText? vars inner with
      | none => exact (flatMap_escape_written hseg hapart).symm
      | some value => exact (h.inserted line hline inner value hseg hvalue).symm
  have hread : (segments r.delimiters line).flatMap (r.fillSegment vars) =
      r.fillLine vars line := by
    rw [fillLine, lineSegments]
    split
    · rename_i hcomment
      rw [flatMap_fillSegment_of_any_eq_false (h.comments line hline hcomment)]
      simp [fillSegment]
    · rfl
  rw [segments_flatMap_escape hapart, List.flatMap_map, ← hread, List.flatMap_assoc]
  exact List.flatMap_congr hfill

/-! ## Reading what pieces spell -/

/-- Lines that are joined, with something behind the last one, are read one by one. -/
theorem flatMap_segments_joined {β : Type} {f : Segment → List β} {d : Delimiters}
    (hf : IgnoresDivision f) {between behind : List Char} {parts : List (List Char)}
    (hne : parts ≠ []) (hclosed : ∀ part ∈ parts, AllClosed d part)
    (hbetween : 1 < parts.length → between ≠ [] ∧ ∀ c ∈ between, ¬ d.Uses c)
    (hbehind : behind ≠ []) (hunused : ∀ c ∈ behind, ¬ d.Uses c) (text : List Char) :
    (segments d (between.intercalate parts ++ behind ++ text)).flatMap f =
      (f (.literal between)).intercalate (parts.map fun part => (segments d part).flatMap f) ++
        f (.literal behind) ++ (segments d text).flatMap f := by
  induction parts with
  | nil => exact absurd rfl hne
  | cons part parts ih =>
    have hpart := hclosed part List.mem_cons_self
    cases parts with
    | nil => simpa using flatMap_segments_of_allClosed hf hpart hbehind hunused text
    | cons next others =>
      obtain ⟨hsome, hapart⟩ := hbetween (by simp)
      have hrest := ih (by simp) (fun p hp => hclosed p (List.mem_cons_of_mem part hp))
        fun _ => ⟨hsome, hapart⟩
      have hfirst := flatMap_segments_of_allClosed hf hpart hsome hapart
        (between.intercalate (next :: others) ++ behind ++ text)
      rw [hrest] at hfirst
      simpa [List.intercalate_cons_cons] using hfirst

/-- A text that stands quoted and escaped in front of another is filled as it is itself. -/
theorem IsQuotable.flatMap_quoted (h : r.IsQuotable vars escape text)
    (hfeed : '\n' ∉ escape '\n') (hquote : ¬ r.delimiters.Uses '"') (rest : List Char) :
    (segments r.delimiters (text.flatMap escape ++ ['"'] ++ rest)).flatMap (r.fillSegment vars) =
      (r.filled vars text).flatMap escape ++ ['"'] ++
        (segments r.delimiters rest).flatMap (r.fillSegment vars) := by
  have hescaped : text.flatMap escape =
      (escape '\n').intercalate ((lines text).map fun line => line.flatMap escape) := by
    rw [← flatMap_joinWithChar, ← unlines, unlines_lines]
  have hfilled : (r.filled vars text).flatMap escape =
      (escape '\n').intercalate ((lines text).map fun line =>
        (r.fillLine vars line).flatMap escape) := by
    rw [filled, unlines, flatMap_joinWithChar, List.map_map]
    rfl
  have hread : ((lines text).map fun line => line.flatMap escape).map
      (fun part => (segments r.delimiters part).flatMap (r.fillSegment vars)) =
        (lines text).map fun line => (r.fillLine vars line).flatMap escape := by
    rw [List.map_map]
    exact List.map_congr_left fun line hline => h.flatMap_fillSegment hline
  have hne : (lines text).map (fun line => line.flatMap escape) ≠ [] :=
    fun hnil => splitAtChar_ne_nil '\n' text (List.map_eq_nil_iff.mp hnil)
  have hclosed : ∀ part ∈ (lines text).map fun line => line.flatMap escape,
      AllClosed r.delimiters part := by
    rw [List.forall_mem_map]
    intro line hline
    exact (h.closed line hline).flatMap_escape fun c hc =>
      h.apart c (mem_of_mem_splitAtChar hline hc).1
  have hbetween : 1 < ((lines text).map fun line => line.flatMap escape).length →
      escape '\n' ≠ [] ∧ ∀ c ∈ escape '\n', ¬ r.delimiters.Uses c := by
    intro hmany
    -- a text of several lines has a line feed, which no delimiter uses then
    have hmem : '\n' ∈ text := by
      by_contra hnot
      rw [lines, splitAtChar_of_not_mem hnot] at hmany
      simp at hmany
    have hapart := h.apart '\n' hmem
    have hunused : ¬ r.delimiters.Uses '\n' := by
      intro huses
      rw [hapart.1 huses] at hfeed
      exact hfeed List.mem_cons_self
    exact hapart.2 hunused
  have hjoined := flatMap_segments_joined (ignoresDivision_fillSegment r vars) hne hclosed hbetween
    (List.cons_ne_nil '"' []) (by simpa using hquote) rest
  rw [← hescaped, hread, fillSegment, ← hfilled] at hjoined
  exact hjoined

/-- Spelled pieces are filled one by one when the stretches between the texts close what they open
and ask for no value, and the texts are quotable. -/
theorem flatMap_segments_spelledAll {front : List Char} (hfeed : '\n' ∉ escape '\n')
    (hquote : ¬ r.delimiters.Uses '"')
    (hstretches : ∀ stretch ∈ stretches front pieces, AllClosed r.delimiters stretch ∧
      (segments r.delimiters stretch).any (isFilled vars) = false)
    (hquoted : ∀ text, .quoted text ∈ pieces → r.IsQuotable vars escape text.toList) :
    (segments r.delimiters (front ++ spelledAll escape pieces)).flatMap (r.fillSegment vars) =
      front ++ spelledAll escape (pieces.map (Piece.mapText (r.filledText vars 1))) := by
  induction pieces generalizing front with
  | nil =>
    obtain ⟨-, hnone⟩ := hstretches front List.mem_cons_self
    simpa using flatMap_fillSegment_of_any_eq_false hnone
  | cons piece rest ih =>
    have hrest : ∀ text, .quoted text ∈ rest → r.IsQuotable vars escape text.toList :=
      fun text htext => hquoted text (List.mem_cons_of_mem piece htext)
    cases piece with
    | bare text =>
      have hread := ih hstretches hrest
      simpa [Piece.mapText] using hread
    | quoted text =>
      obtain ⟨hclosed, hnone⟩ := hstretches front List.mem_cons_self
      have htext := hquoted text List.mem_cons_self
      have hread := ih (fun stretch h => hstretches stretch (List.mem_cons_of_mem front h)) hrest
      have hfront := flatMap_segments_of_allClosed (ignoresDivision_fillSegment r vars) hclosed
        (List.cons_ne_nil '"' []) (by simpa using hquote)
        (text.toList.flatMap escape ++ ['"'] ++ spelledAll escape rest)
      rw [htext.flatMap_quoted hfeed hquote, flatMap_fillSegment_of_any_eq_false hnone] at hfront
      rw [List.nil_append, List.nil_append] at hread
      rw [hread] at hfront
      simpa [Piece.mapText, fillSegment, filledText, filledTimes] using hfront

/-- A pass over spelled pieces that are one line, and no comment, fills the texts among them. -/
theorem filled_spelledAll (hescape : ∀ c, '\n' ∉ escape c) (hquote : ¬ r.delimiters.Uses '"')
    (hcomment : r.isComment (spelledAll escape pieces) = false)
    (hstretches : ∀ stretch ∈ stretches [] pieces, '\n' ∉ stretch ∧
      AllClosed r.delimiters stretch ∧ (segments r.delimiters stretch).any (isFilled vars) = false)
    (hquoted : ∀ text, .quoted text ∈ pieces → r.IsQuotable vars escape text.toList) :
    r.filled vars (spelledAll escape pieces) =
      spelledAll escape (pieces.map (Piece.mapText (r.filledText vars 1))) := by
  have hfeed : '\n' ∉ [] ++ spelledAll escape pieces :=
    not_mem_spelledAll (by decide) hescape fun stretch hstretch => (hstretches stretch hstretch).1
  have hread := flatMap_segments_spelledAll (hescape '\n') hquote
    (fun stretch hstretch => (hstretches stretch hstretch).2) hquoted
  rw [List.nil_append] at hfeed
  rw [List.nil_append, List.nil_append] at hread
  rw [filled, lines, splitAtChar_of_not_mem hfeed, List.map_singleton, fillLine, lineSegments,
    hcomment]
  exact hread

end LayeredConfig.Template.Renderer
