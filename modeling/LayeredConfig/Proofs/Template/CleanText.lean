import LayeredConfig.Proofs.Text.Lines
import LayeredConfig.Template.Renderer

/-!
# Clean texts

A text is clean when it is written by literals and placeholders whose own
characters occur in neither delimiter. Reading such a text finds exactly the
placeholders that were written, and a pass over it replaces each of them and
nothing else, whatever lines the text is divided into. What a clean text means
does not depend on which segments it was written by.
-/

namespace LayeredConfig.Template

open Text

/-- The character occurs in a delimiter. -/
def Delimiters.Uses (d : Delimiters) (c : Char) : Prop := c ∈ d.opening ∨ c ∈ d.closing

/-- No placeholder can cross a line: neither delimiter holds a line feed. -/
def Delimiters.OnOneLine (d : Delimiters) : Prop := ¬ d.Uses '\n'

/-- A segment that cannot be mistaken for another: a literal without characters
of the delimiters, or a placeholder around such a text, not empty and on one line. -/
def Segment.IsClean (d : Delimiters) : Segment → Prop
  | .literal text => ∀ c ∈ text, ¬ d.Uses c
  | .placeholder inner => inner ≠ [] ∧ '\n' ∉ inner ∧ ∀ c ∈ inner, ¬ d.Uses c

/-- How segments are written one after the other. -/
def written (d : Delimiters) (segs : List Segment) : List Char :=
  segs.flatMap (Segment.written d)

/-- Every segment is clean. -/
def AllClean (d : Delimiters) (segs : List Segment) : Prop := ∀ seg ∈ segs, seg.IsClean d

/-- The text is written by clean segments. -/
def IsCleanText (d : Delimiters) (text : List Char) : Prop :=
  ∃ segs, AllClean d segs ∧ written d segs = text

/-- A reading of segments that does not see where literals are divided. -/
def IgnoresDivision {β : Type} (f : Segment → List β) : Prop :=
  ∀ a b, f (.literal (a ++ b)) = f (.literal a) ++ f (.literal b)

/-- Such a reading finds nothing in an empty literal. -/
theorem IgnoresDivision.literal_nil {β : Type} {f : Segment → List β} (hf : IgnoresDivision f) :
    f (.literal []) = [] := by
  have hlen := congrArg List.length (hf [] [])
  rw [List.length_append, List.append_nil] at hlen
  exact List.length_eq_zero_iff.mp (by omega)

@[simp] theorem written_nil (d : Delimiters) : written d [] = [] := rfl

@[simp] theorem written_cons (d : Delimiters) (seg : Segment) (segs : List Segment) :
    written d (seg :: segs) = seg.written d ++ written d segs := rfl

@[simp] theorem written_append (d : Delimiters) (front back : List Segment) :
    written d (front ++ back) = written d front ++ written d back := List.flatMap_append

@[simp] theorem written_segments (d : Delimiters) (line : List Char) :
    written d (segments d line) = line := flatMap_written_segments d line

/-- Clean segments are a clean first one and clean others. -/
theorem allClean_cons {d : Delimiters} {seg : Segment} {segs : List Segment} :
    AllClean d (seg :: segs) ↔ seg.IsClean d ∧ AllClean d segs := List.forall_mem_cons

/-- A text without characters of the delimiters is clean. -/
theorem isCleanText_of_literal {d : Delimiters} {text : List Char} (h : ∀ c ∈ text, ¬ d.Uses c) :
    IsCleanText d text :=
  ⟨[.literal text], by simpa [AllClean, Segment.IsClean] using h, by simp [Segment.written]⟩

/-! ## Reading a line -/

/-- A line without an opening is one literal. -/
theorem segments_of_unopened {d : Delimiters} {line : List Char}
    (ho : cut? d.opening line = none) : segments d line = [.literal line] := by
  rw [segments]
  split
  · rfl
  · rename_i h
    rw [ho] at h
    cases h

/-- A placeholder that is opened, not empty and closed is read as one. -/
theorem segments_of_placeholder {d : Delimiters} {line before after inner rest : List Char}
    {c : Char} (ho : cut? d.opening line = some (before, after))
    (hc : cut? d.closing after = some (c :: inner, rest)) :
    segments d line = .literal before :: .placeholder (c :: inner) :: segments d rest := by
  rw [segments]
  split
  · rename_i h
    rw [ho] at h
    cases h
  · rename_i h
    rw [ho] at h
    cases h
    split
    · rename_i h
      rw [hc] at h
      cases h
    · rename_i h
      rw [hc] at h
      cases h
    · rename_i h
      rw [hc] at h
      cases h
      rfl

/-- A text without characters of the delimiters opens nothing. -/
theorem cut?_opening_eq_none {d : Delimiters} {text : List Char}
    (h : ∀ c ∈ text, ¬ d.Uses c) : cut? d.opening text = none := by
  obtain ⟨p, opening, hp⟩ := List.exists_cons_of_ne_nil d.opening_ne_nil
  rw [hp]
  refine cut?_eq_none_of_not_mem fun hm => h p hm (.inl ?_)
  rw [hp]
  exact List.mem_cons_self

/-- The opening is found behind a text without characters of the delimiters. -/
theorem cut?_opening_append {d : Delimiters} {before : List Char} (after : List Char)
    (h : ∀ c ∈ before, ¬ d.Uses c) :
    cut? d.opening (before ++ d.opening ++ after) = some (before, after) := by
  obtain ⟨p, opening, hp⟩ := List.exists_cons_of_ne_nil d.opening_ne_nil
  have hn : p ∉ before := fun hm => h p hm (.inl (by rw [hp]; exact List.mem_cons_self))
  rw [hp]
  exact cut?_append after hn

/-- The closing is found behind a text without characters of the delimiters. -/
theorem cut?_closing_append {d : Delimiters} {inner : List Char} (rest : List Char)
    (h : ∀ c ∈ inner, ¬ d.Uses c) :
    cut? d.closing (inner ++ d.closing ++ rest) = some (inner, rest) := by
  obtain ⟨p, closing, hp⟩ := List.exists_cons_of_ne_nil d.closing_ne_nil
  have hn : p ∉ inner := fun hm => h p hm (.inr (by rw [hp]; exact List.mem_cons_self))
  rw [hp]
  exact cut?_append rest hn

/-- Reading what clean segments write, behind a literal, finds the literal and
the segments, up to where literals are divided. -/
theorem flatMap_segments_append {β : Type} {f : Segment → List β} (hf : IgnoresDivision f)
    {d : Delimiters} {segs : List Segment} (hc : AllClean d segs) {front : List Char}
    (hfront : ∀ c ∈ front, ¬ d.Uses c) :
    (segments d (front ++ written d segs)).flatMap f = f (.literal front) ++ segs.flatMap f := by
  induction segs generalizing front with
  | nil =>
    rw [written_nil, List.append_nil, segments_of_unopened (cut?_opening_eq_none hfront)]
    simp
  | cons seg segs ih =>
    obtain ⟨hseg, hsegs⟩ := allClean_cons.mp hc
    cases seg with
    | literal text =>
      have hlong : ∀ c ∈ front ++ text, ¬ d.Uses c := by
        intro c hm
        rcases List.mem_append.mp hm with hm | hm
        · exact hfront c hm
        · exact hseg c hm
      rw [written_cons, Segment.written, ← List.append_assoc, ih hsegs hlong, hf]
      simp
    | placeholder inner =>
      obtain ⟨hne, -, hinner⟩ := hseg
      obtain ⟨c, name, rfl⟩ := List.exists_cons_of_ne_nil hne
      have ho := cut?_opening_append (d := d) (c :: name ++ d.closing ++ written d segs) hfront
      have hcl := cut?_closing_append (d := d) (written d segs) hinner
      have hrest := ih hsegs fun c (hm : c ∈ []) => absurd hm List.not_mem_nil
      rw [List.nil_append, hf.literal_nil, List.nil_append] at hrest
      have hline : front ++ written d (.placeholder (c :: name) :: segs) =
          front ++ d.opening ++ (c :: name ++ d.closing ++ written d segs) := by
        simp [Segment.written]
      rw [hline, segments_of_placeholder ho hcl, List.flatMap_cons, List.flatMap_cons, hrest,
        List.flatMap_cons]

/-- Reading what clean segments write finds them, up to where literals are divided. -/
theorem flatMap_segments_written {β : Type} {f : Segment → List β} (hf : IgnoresDivision f)
    {d : Delimiters} {segs : List Segment} (hc : AllClean d segs) :
    (segments d (written d segs)).flatMap f = segs.flatMap f := by
  have h := flatMap_segments_append hf hc fun c (hm : c ∈ []) => absurd hm List.not_mem_nil
  rwa [List.nil_append, hf.literal_nil, List.nil_append] at h

/-- Clean segments that write the same text are read alike. -/
theorem flatMap_eq_of_written_eq {β : Type} {f : Segment → List β} (hf : IgnoresDivision f)
    {d : Delimiters} {segs others : List Segment} (hs : AllClean d segs) (ho : AllClean d others)
    (h : written d segs = written d others) : segs.flatMap f = others.flatMap f := by
  rw [← flatMap_segments_written hf hs, h, flatMap_segments_written hf ho]

end LayeredConfig.Template
