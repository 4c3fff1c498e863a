import LayeredConfig.Text.Cut

/-!
# The segments of a line

A line is read into literal stretches and placeholders. Where the placeholders
stand depends on the delimiters alone, never on the variables, and the written
forms of the segments give the line back.
-/

namespace LayeredConfig.Template

open Text

/-- The delimiters of a placeholder, neither of them empty. -/
structure Delimiters where
  /-- What opens a placeholder. -/
  opening : List Char
  /-- What closes a placeholder. -/
  closing : List Char
  /-- The opening is not empty. -/
  opening_ne_nil : opening ≠ []
  /-- The closing is not empty. -/
  closing_ne_nil : closing ≠ []

/-- A stretch of a line. -/
inductive Segment where
  /-- Text that stands for itself. -/
  | literal (text : List Char)
  /-- A placeholder with the text between its delimiters. -/
  | placeholder (inner : List Char)
  deriving DecidableEq, Repr

/-- How a segment is written. -/
def Segment.written (d : Delimiters) : Segment → List Char
  | .literal text => text
  | .placeholder inner => d.opening ++ inner ++ d.closing

/-- Read a line from left to right. A placeholder runs from the first opening
to the closing that follows it first. An opening with a closing right behind
it is literal, and so is everything from an opening that is never closed. -/
def segments (d : Delimiters) (line : List Char) : List Segment :=
  match _opened : cut? d.opening line with
  | none => [.literal line]
  | some (before, after) =>
    match _closed : cut? d.closing after with
    | none => [.literal line]
    | some ([], _) => .literal (before ++ d.opening) :: segments d after
    | some (c :: inner, rest) =>
      .literal before :: .placeholder (c :: inner) :: segments d rest
termination_by line.length
decreasing_by
  · exact length_lt_of_cut? d.opening_ne_nil _opened
  · exact Nat.lt_trans (length_lt_of_cut? d.closing_ne_nil _closed)
      (length_lt_of_cut? d.opening_ne_nil _opened)

/-- The written segments of a line are the line. -/
theorem flatMap_written_segments (d : Delimiters) (line : List Char) :
    (segments d line).flatMap (Segment.written d) = line := by
  induction line using segments.induct d with
  | case1 line hOpen =>
    rw [segments]
    split
    · simp [Segment.written]
    · rename_i h
      rw [hOpen] at h
      cases h
  | case2 line before after hOpen hClose =>
    rw [segments]
    split
    · rename_i h; rw [hOpen] at h; cases h
    · rename_i h
      rw [hOpen] at h
      cases h
      split
      · simp [Segment.written]
      · rename_i h; rw [hClose] at h; cases h
      · rename_i h; rw [hClose] at h; cases h
  | case3 line before after hOpen rest hClose ih =>
    have hw := append_of_cut? hOpen
    rw [segments]
    split
    · rename_i h; rw [hOpen] at h; cases h
    · rename_i h
      rw [hOpen] at h
      cases h
      split
      · rename_i h; rw [hClose] at h; cases h
      · simp [Segment.written, ih, ← hw]
      · rename_i h; rw [hClose] at h; cases h
  | case4 line before after hOpen c inner rest hClose ih =>
    have hw := append_of_cut? hOpen
    have hv := append_of_cut? hClose
    rw [segments]
    split
    · rename_i h; rw [hOpen] at h; cases h
    · rename_i h
      rw [hOpen] at h
      cases h
      split
      · rename_i h; rw [hClose] at h; cases h
      · rename_i h; rw [hClose] at h; cases h
      · rename_i h
        rw [hClose] at h
        cases h
        simp [Segment.written, ih, ← hw, ← hv]

end LayeredConfig.Template
