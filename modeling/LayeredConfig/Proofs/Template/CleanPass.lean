import LayeredConfig.Proofs.Template.CleanText

/-!
# A pass over a clean text

Clean segments are divided into lines at the line feeds of their literals. Each
line is read as its own segments, so a pass over the whole text fills exactly
the placeholders that the text was written by.
-/

namespace LayeredConfig.Template

open Text

/-- Put a segment in front of the first line. -/
def putInFront (seg : Segment) : List (List Segment) → List (List Segment)
  | [] => [[seg]]
  | line :: others => (seg :: line) :: others

/-- Put a literal in front of lines; its line feeds begin new ones. -/
def putLiteral : List Char → List (List Segment) → List (List Segment)
  | [], following => following
  | c :: text, following =>
    if c = '\n' then [] :: putLiteral text following
    else putInFront (.literal [c]) (putLiteral text following)

/-- The segments of every line that segments write. -/
def segmentLines : List Segment → List (List Segment)
  | [] => [[]]
  | .literal text :: segs => putLiteral text (segmentLines segs)
  | .placeholder inner :: segs => putInFront (.placeholder inner) (segmentLines segs)

/-- There is a first line behind a segment. -/
theorem putInFront_ne_nil (seg : Segment) (following : List (List Segment)) :
    putInFront seg following ≠ [] := by
  cases following <;> simp [putInFront]

/-- A literal takes no line away. -/
theorem putLiteral_ne_nil {text : List Char} {following : List (List Segment)}
    (h : following ≠ []) : putLiteral text following ≠ [] := by
  cases text with
  | nil => exact h
  | cons c text =>
    rw [putLiteral]
    split
    · simp
    · exact putInFront_ne_nil _ _

/-- There is always a first line. -/
theorem segmentLines_ne_nil (segs : List Segment) : segmentLines segs ≠ [] := by
  induction segs with
  | nil => simp [segmentLines]
  | cons seg segs ih =>
    cases seg with
    | literal text => exact putLiteral_ne_nil ih
    | placeholder inner => exact putInFront_ne_nil _ _

section Reading

variable {β : Type} {f : Segment → List β} {separator : List β}

/-- A segment in front of the first line is read first. -/
theorem intercalate_putInFront (seg : Segment) {following : List (List Segment)}
    (h : following ≠ []) :
    separator.intercalate ((putInFront seg following).map (·.flatMap f)) =
      f seg ++ separator.intercalate (following.map (·.flatMap f)) := by
  cases following with
  | nil => exact absurd rfl h
  | cons line others =>
    cases others with
    | nil => simp [putInFront]
    | cons next more => simp [putInFront, List.intercalate_cons_cons]

/-- Reading a literal in front of lines, with the reading of a line feed between lines. -/
theorem intercalate_putLiteral (hf : IgnoresDivision f) (text : List Char)
    {following : List (List Segment)} (h : following ≠ []) :
    (f (.literal ['\n'])).intercalate ((putLiteral text following).map (·.flatMap f)) =
      f (.literal text) ++ (f (.literal ['\n'])).intercalate (following.map (·.flatMap f)) := by
  induction text with
  | nil => simp [putLiteral, hf.literal_nil]
  | cons c text ih =>
    have hne : putLiteral text following ≠ [] := putLiteral_ne_nil h
    have hsplit := hf [c] text
    rw [List.singleton_append] at hsplit
    rw [putLiteral]
    split
    · rename_i hc
      subst hc
      rw [List.map_cons, List.intercalate_cons_of_ne_nil (by simpa using hne), ih, hsplit]
      simp
    · rw [intercalate_putInFront _ hne, ih, hsplit, List.append_assoc]

/-- Reading lines one by one, with the reading of a line feed between them, is
reading the segments. -/
theorem intercalate_segmentLines (hf : IgnoresDivision f) (segs : List Segment) :
    (f (.literal ['\n'])).intercalate ((segmentLines segs).map (·.flatMap f)) =
      segs.flatMap f := by
  induction segs with
  | nil => simp [segmentLines]
  | cons seg segs ih =>
    have hne := segmentLines_ne_nil segs
    cases seg with
    | literal text => rw [segmentLines, intercalate_putLiteral hf text hne, ih, List.flatMap_cons]
    | placeholder inner =>
      rw [segmentLines, intercalate_putInFront _ hne, ih, List.flatMap_cons]

end Reading

/-- Clean segments of a line, which write no line feed. -/
def IsCleanLine (d : Delimiters) (line : List Segment) : Prop :=
  AllClean d line ∧ '\n' ∉ written d line

/-- A clean segment without a line feed keeps all lines clean. -/
theorem isCleanLine_putInFront {d : Delimiters} {seg : Segment} {following : List (List Segment)}
    (hseg : seg.IsClean d) (hfeed : '\n' ∉ seg.written d)
    (h : ∀ line ∈ following, IsCleanLine d line) :
    ∀ line ∈ putInFront seg following, IsCleanLine d line := by
  intro line hm
  cases following with
  | nil =>
    rw [putInFront, List.mem_singleton] at hm
    subst hm
    exact ⟨allClean_cons.mpr ⟨hseg, fun _ hn => absurd hn List.not_mem_nil⟩, by simpa using hfeed⟩
  | cons first others =>
    rcases List.mem_cons.mp hm with rfl | hm
    · obtain ⟨hclean, hline⟩ := h first List.mem_cons_self
      exact ⟨allClean_cons.mpr ⟨hseg, hclean⟩, by simp [hfeed, hline]⟩
    · exact h line (List.mem_cons_of_mem _ hm)

/-- A clean literal keeps all lines clean. -/
theorem isCleanLine_putLiteral {d : Delimiters} {text : List Char}
    {following : List (List Segment)} (htext : ∀ c ∈ text, ¬ d.Uses c)
    (h : ∀ line ∈ following, IsCleanLine d line) :
    ∀ line ∈ putLiteral text following, IsCleanLine d line := by
  induction text with
  | nil => exact h
  | cons c text ih =>
    have hrest := ih fun e he => htext e (List.mem_cons_of_mem _ he)
    intro line hm
    rw [putLiteral] at hm
    split at hm
    · rcases List.mem_cons.mp hm with rfl | hm
      · exact ⟨fun _ hn => absurd hn List.not_mem_nil, by simp⟩
      · exact hrest line hm
    · rename_i hc
      have hseg : (Segment.literal [c]).IsClean d := by
        intro e he
        exact htext e (List.mem_cons.mpr (.inl (List.mem_singleton.mp he)))
      have hfeed : '\n' ∉ (Segment.literal [c]).written d := by
        simpa [Segment.written] using Ne.symm hc
      exact isCleanLine_putInFront hseg hfeed hrest line hm

/-- Clean segments are divided into clean lines. -/
theorem isCleanLine_segmentLines {d : Delimiters} (hd : d.OnOneLine) {segs : List Segment}
    (hc : AllClean d segs) : ∀ line ∈ segmentLines segs, IsCleanLine d line := by
  induction segs with
  | nil => simp [segmentLines, IsCleanLine, AllClean]
  | cons seg segs ih =>
    obtain ⟨hseg, hsegs⟩ := allClean_cons.mp hc
    cases seg with
    | literal text => exact isCleanLine_putLiteral hseg (ih hsegs)
    | placeholder inner =>
      have hfeed : '\n' ∉ (Segment.placeholder inner).written d := by
        intro hm
        simp only [Segment.written, List.mem_append] at hm
        rcases hm with (hm | hm) | hm
        · exact hd (.inl hm)
        · exact hseg.2.1 hm
        · exact hd (.inr hm)
      exact isCleanLine_putInFront hseg hfeed (ih hsegs)

/-- The lines of a clean text are what its lines of segments write. -/
theorem lines_written {d : Delimiters} (hd : d.OnOneLine) {segs : List Segment}
    (hc : AllClean d segs) : lines (written d segs) = (segmentLines segs).map (written d) := by
  have hw : IgnoresDivision (Segment.written d) := fun _ _ => rfl
  have hjoin : joinWithChar '\n' ((segmentLines segs).map (written d)) = written d segs := by
    rw [joinWithChar_eq_intercalate]
    exact intercalate_segmentLines hw segs
  rw [← hjoin]
  refine splitAtChar_joinWithChar (by simpa using segmentLines_ne_nil segs) ?_
  intro part hp
  obtain ⟨line, hl, rfl⟩ := List.mem_map.mp hp
  exact (isCleanLine_segmentLines hd hc line hl).2

/-! ## Filling the placeholders -/

/-- The text inside a placeholder. -/
def Segment.inner : Segment → List (List Char)
  | .literal _ => []
  | .placeholder inner => [inner]

/-- Literals hold no placeholder, however they are divided. -/
theorem ignoresDivision_inner : IgnoresDivision Segment.inner := fun _ _ => rfl

/-- Filling leaves literals as they are, however they are divided. -/
theorem ignoresDivision_fillSegment (r : Renderer) (vars : Variables) :
    IgnoresDivision (r.fillSegment vars) := fun _ _ => rfl

/-- The placeholders among segments. -/
theorem mem_flatMap_inner {segs : List Segment} {inner : List Char} :
    inner ∈ segs.flatMap Segment.inner ↔ .placeholder inner ∈ segs := by
  rw [List.mem_flatMap]
  constructor
  · rintro ⟨seg, hs, hi⟩
    cases seg with
    | literal text => cases hi
    | placeholder name =>
      rw [Segment.inner, List.mem_singleton] at hi
      exact hi ▸ hs
  · intro h
    exact ⟨_, h, List.mem_singleton.mpr rfl⟩

/-- A placeholder has a value when the variable that it names has one. -/
theorem isSome_placeholderText? (vars : Variables) (inner : List Char) :
    (placeholderText? vars inner).isSome = (vars.lookup? (placeholderName inner)).isSome := by
  rw [placeholderText?]
  cases vars.lookup? (placeholderName inner) with
  | none => rfl
  | some value => rfl

/-- A placeholder stands on one of the lines that the segments are divided into. -/
theorem mem_segmentLines_iff (segs : List Segment) (inner : List Char) :
    (∃ line ∈ segmentLines segs, .placeholder inner ∈ line) ↔ .placeholder inner ∈ segs := by
  have hread := intercalate_segmentLines ignoresDivision_inner segs
  have hflat : ([] : List (List Char)).intercalate
      ((segmentLines segs).map (·.flatMap Segment.inner)) =
        (segmentLines segs).flatMap (·.flatMap Segment.inner) := by
    induction segmentLines segs with
    | nil => rfl
    | cons line others ih =>
      cases others with
      | nil => simp
      | cons next more =>
        rw [List.map_cons, List.map_cons, List.intercalate_cons_cons, ← List.map_cons, ih]
        simp
  rw [← mem_flatMap_inner, ← hread, Segment.inner, hflat, List.mem_flatMap]
  simp only [mem_flatMap_inner]

/-- A line that does not hold the first character of the marker is no comment. -/
theorem isComment_eq_false {r : Renderer} {line : List Char}
    (h : ∀ c, r.commentMarker.head? = some c → c ∉ line) : r.isComment line = false := by
  cases hm : r.commentMarker with
  | nil => simp [Renderer.isComment, hm]
  | cons c rest =>
    have hc : c ∉ trim line := fun ht => h c (by rw [hm]; rfl) (mem_of_mem_trim ht)
    have hp : (c :: rest).isPrefixOf (trim line) = false := by
      cases ht : trim line with
      | nil => rfl
      | cons e others =>
        rw [ht] at hc
        simp [List.isPrefixOf, List.ne_of_not_mem_cons hc]
    rw [Renderer.isComment, hm, hp, Bool.and_false]

/-- A line of clean segments that is no comment is read as them. -/
theorem flatMap_lineSegments {β : Type} {f : Segment → List β} (hf : IgnoresDivision f)
    {r : Renderer} {line : List Segment} (hc : AllClean r.delimiters line)
    (hcomment : r.isComment (written r.delimiters line) = false) :
    (r.lineSegments (written r.delimiters line)).flatMap f = line.flatMap f := by
  rw [Renderer.lineSegments, hcomment]
  exact flatMap_segments_written hf hc

/-- The placeholders that are read from a line of clean segments. -/
theorem mem_lineSegments_iff {r : Renderer} {line : List Segment}
    (hc : AllClean r.delimiters line)
    (hcomment : r.isComment (written r.delimiters line) = false) (inner : List Char) :
    .placeholder inner ∈ r.lineSegments (written r.delimiters line) ↔
      .placeholder inner ∈ line := by
  rw [← mem_flatMap_inner, flatMap_lineSegments ignoresDivision_inner hc hcomment,
    mem_flatMap_inner]

section Pass

variable {r : Renderer} {vars : Variables} {segs : List Segment}

/-- No line of clean segments that avoid the marker is a comment. -/
theorem isComment_segmentLines (hd : r.delimiters.OnOneLine) (hc : AllClean r.delimiters segs)
    (hcomment : ∀ c, r.commentMarker.head? = some c → c ∉ written r.delimiters segs) :
    ∀ line ∈ segmentLines segs, r.isComment (written r.delimiters line) = false := by
  intro line hl
  refine isComment_eq_false fun c hm hn => hcomment c hm ?_
  have hmem : written r.delimiters line ∈ lines (written r.delimiters segs) := by
    rw [lines_written hd hc]
    exact List.mem_map_of_mem hl
  exact (mem_of_mem_splitAtChar hmem hn).1

/-- Filling the lines of clean segments is filling the segments. -/
theorem unlines_fillLine_written (hd : r.delimiters.OnOneLine) (hc : AllClean r.delimiters segs)
    (hplain : ∀ line ∈ segmentLines segs, r.isComment (written r.delimiters line) = false) :
    unlines ((lines (written r.delimiters segs)).map (r.fillLine vars)) =
      segs.flatMap (r.fillSegment vars) := by
  have hf := ignoresDivision_fillSegment r vars
  rw [lines_written hd hc, List.map_map, unlines, joinWithChar_eq_intercalate,
    ← intercalate_segmentLines hf segs]
  refine congrArg _ (List.map_congr_left fun line hl => ?_)
  exact flatMap_lineSegments hf (isCleanLine_segmentLines hd hc line hl).1 (hplain line hl)

end Pass

end LayeredConfig.Template
