import LayeredConfig.Proofs.Template.MissingReport

/-!
# Comment lines take no part

A comment line is filled to itself, misses nothing and changes nothing. So two texts that
are the same but for a comment line go through every pass alike: what the passes make of
the other lines, the lines that inserted values bring in and the numbers of the lines are
the same, and the comment line is still where it was between them.
-/

namespace LayeredConfig.Template.Renderer

open Text

variable {r : Renderer} {vars : Variables} {text other : List Char} {comment comment' : List Char}

/-! ## A pass over a comment line -/

/-- A comment line is filled to itself. -/
theorem fillLine_of_isComment (h : r.isComment comment = true) :
    r.fillLine vars comment = comment := by
  rw [fillLine, lineSegments, if_pos h, List.flatMap_singleton, fillSegment]

/-- Nothing in a comment line is replaced. -/
theorem changesLine_of_isComment (h : r.isComment comment = true) :
    r.changesLine vars comment = false := by
  rw [changesLine, lineSegments, if_pos h]
  rfl

/-- Nothing is missing in a comment line. -/
theorem missingNames_of_isComment (h : r.isComment comment = true) :
    r.missingNames vars comment = [] := by
  rw [missingNames, lineSegments, if_pos h]
  rfl

/-- The lines that a comment line is filled to are the comment line. -/
theorem lines_fillLine_of_isComment (h : r.isComment comment = true) (hline : '\n' ∉ comment) :
    lines (r.fillLine vars comment) = [comment] := by
  rw [fillLine_of_isComment h, lines_of_not_mem hline]

/-! ## Two texts that are the same but for a comment line -/

/-- The lines of two texts are the same but for one, which is the first line in the first text and
the second line in the second text. -/
def DifferInLine (comment comment' text other : List Char) : Prop :=
  ∃ before after, lines text = before ++ comment :: after ∧
    lines other = before ++ comment' :: after

/-- The line in which texts differ is a line of each. -/
theorem DifferInLine.mem (h : DifferInLine comment comment' text other) :
    comment ∈ lines text ∧ comment' ∈ lines other := by
  obtain ⟨before, after, htext, hother⟩ := h
  constructor
  · rw [htext]
    exact List.mem_append_right before List.mem_cons_self
  · rw [hother]
    exact List.mem_append_right before List.mem_cons_self

/-- Lines miss what the first of them miss, and then what the others miss, counted on from
these. -/
theorem missingFrom_append (number : ℕ) (first second : List (List Char)) :
    r.missingFrom vars number (first ++ second) =
      r.missingFrom vars number first ++ r.missingFrom vars (number + first.length) second := by
  induction first generalizing number with
  | nil => rfl
  | cons line rest ih =>
    have hnumber : number + 1 + rest.length = number + (rest.length + 1) := by omega
    rw [List.cons_append, missingFrom, missingFrom, ih, List.append_assoc, hnumber,
      List.length_cons]

section Comments

variable (hc : r.isComment comment = true) (hc' : r.isComment comment' = true)

include hc hc'

/-- Texts that differ in a comment line still do so when they are filled. -/
theorem DifferInLine.filled (h : DifferInLine comment comment' text other) :
    DifferInLine comment comment' (r.filled vars text) (r.filled vars other) := by
  have hline := newline_not_mem_of_mem_lines h.mem.1
  have hline' := newline_not_mem_of_mem_lines h.mem.2
  obtain ⟨before, after, htext, hother⟩ := h
  refine ⟨before.flatMap fun line => lines (r.fillLine vars line),
    after.flatMap fun line => lines (r.fillLine vars line), ?_, ?_⟩
  · rw [lines_filled, htext, List.flatMap_append, List.flatMap_cons,
      lines_fillLine_of_isComment hc hline, List.singleton_append]
  · rw [lines_filled, hother, List.flatMap_append, List.flatMap_cons,
      lines_fillLine_of_isComment hc' hline', List.singleton_append]

/-- The renderer objects to the same in texts that differ in a comment line. -/
theorem DifferInLine.missingIn_eq (h : DifferInLine comment comment' text other) :
    r.missingIn vars other = r.missingIn vars text := by
  obtain ⟨before, after, htext, hother⟩ := h
  have hnone : r.missingNames vars comment = [] := missingNames_of_isComment hc
  have hnone' : r.missingNames vars comment' = [] := missingNames_of_isComment hc'
  rw [missingIn, missingIn, htext, hother, missingFrom_append, missingFrom_append, missingFrom,
    missingFrom, hnone, hnone']

/-- A pass changes both of two texts that differ in a comment line, or none. -/
theorem DifferInLine.any_changesLine_eq (h : DifferInLine comment comment' text other) :
    (lines other).any (r.changesLine vars) = (lines text).any (r.changesLine vars) := by
  obtain ⟨before, after, htext, hother⟩ := h
  have hsame : r.changesLine vars comment = false := changesLine_of_isComment hc
  have hsame' : r.changesLine vars comment' = false := changesLine_of_isComment hc'
  rw [htext, hother, List.any_append, List.any_append, List.any_cons, List.any_cons, hsame, hsame']

/-- Passes over texts that differ in a comment line fail alike, or have results that differ in
it. -/
theorem DifferInLine.passes (h : DifferInLine comment comment' text other) (n : ℕ) :
    Corresponds (DifferInLine comment comment') (r.passes vars n text) (r.passes vars n other) := by
  induction n generalizing text other with
  | zero => exact .inl ⟨_, rfl, rfl⟩
  | succ n ih =>
    have hmissing : r.missingIn vars other = r.missingIn vars text := h.missingIn_eq hc hc'
    have hchanged : (lines other).any (r.changesLine vars) =
        (lines text).any (r.changesLine vars) := h.any_changesLine_eq hc hc'
    have hfilled : DifferInLine comment comment' (r.filled vars text) (r.filled vars other) :=
      h.filled hc hc'
    rw [Renderer.passes, Renderer.passes]
    cases hreport : r.missingIn vars text with
    | cons m more =>
      rw [hreport] at hmissing
      rw [pass, pass, hreport, hmissing]
      exact .inl ⟨_, rfl, rfl⟩
    | nil =>
      rw [hreport] at hmissing
      rw [pass_of_missingIn_eq_nil hreport, pass_of_missingIn_eq_nil hmissing, hchanged]
      cases (lines text).any (r.changesLine vars) with
      | true => exact ih hfilled
      | false => exact .inr ⟨_, _, rfl, rfl, hfilled⟩

end Comments

/-! ## The comment lines of a text -/

/-- Comment lines stand, in their order, among the comment lines that lines are filled to. -/
theorem sublist_comments_flatMap {texts : List (List Char)} (hlines : ∀ line ∈ texts, '\n' ∉ line) :
    (texts.filter r.isComment).Sublist
      ((texts.flatMap fun line => lines (r.fillLine vars line)).filter r.isComment) := by
  induction texts with
  | nil => exact List.Sublist.refl _
  | cons line rest ih =>
    have hrest := ih fun other hother => hlines other (List.mem_cons_of_mem line hother)
    rw [List.flatMap_cons, List.filter_append]
    by_cases hcomment : r.isComment line = true
    · rw [lines_fillLine_of_isComment hcomment (hlines line List.mem_cons_self),
        List.filter_cons_of_pos hcomment, List.filter_cons_of_pos hcomment]
      exact hrest.cons_cons line
    · rw [List.filter_cons_of_neg hcomment]
      exact hrest.trans (List.sublist_append_right _ _)

/-- The comment lines of a text stand, in their order, among those of the text filled a number of
times. -/
theorem sublist_comments_filledTimes (n : ℕ) (text : List Char) :
    ((lines text).filter r.isComment).Sublist
      ((lines (r.filledTimes vars n text)).filter r.isComment) := by
  induction n with
  | zero => exact List.Sublist.refl _
  | succ n ih =>
    rw [filledTimes_succ, lines_filled]
    exact ih.trans (sublist_comments_flatMap fun line hline => newline_not_mem_of_mem_lines hline)

/-- Putting one comment line in the place of another changes nothing but that line in what is
rendered: both texts fail alike, or are rendered to lines that are the same but for the comment
line. And every comment line of a text stands in what is rendered, unchanged and in order. -/
theorem render_of_comment {text other : String} {before after : List (List Char)}
    (hc : r.isComment comment = true) (hc' : r.isComment comment' = true) (hline' : '\n' ∉ comment')
    (htext : lines text.toList = before ++ comment :: after)
    (hother : other.toList = unlines (before ++ comment' :: after)) :
    Corresponds (fun out out' => ∃ above below, lines out.toList = above ++ comment :: below ∧
        lines out'.toList = above ++ comment' :: below)
      (r.render vars text) (r.render vars other) ∧
    ∀ out, r.render vars text = .ok out →
      ((lines text.toList).filter r.isComment).Sublist
        ((lines out.toList).filter r.isComment) := by
  have hlines : ∀ line ∈ before ++ comment' :: after, '\n' ∉ line := by
    intro line hmem
    have hold : ∀ line ∈ before ++ comment :: after, '\n' ∉ line := fun line hmem =>
      newline_not_mem_of_mem_lines (htext ▸ hmem)
    rcases List.mem_append.mp hmem with hmem | hmem
    · exact hold line (List.mem_append_left _ hmem)
    · rcases List.mem_cons.mp hmem with rfl | hmem
      · exact hline'
      · exact hold line (List.mem_append_right _ (List.mem_cons_of_mem _ hmem))
  have hdiffer : DifferInLine comment comment' text.toList other.toList := by
    refine ⟨before, after, htext, ?_⟩
    rw [hother]
    exact splitAtChar_joinWithChar (by simp) hlines
  constructor
  · rw [render_eq_map, render_eq_map]
    refine (hdiffer.passes hc hc' maxPasses).map fun out out' hout => ?_
    rw [String.toList_ofList, String.toList_ofList]
    exact hout
  · intro out h
    obtain ⟨m, -, -, hlast, -⟩ := filledTimes_of_render h
    rw [← hlast m le_rfl]
    exact sublist_comments_filledTimes m text.toList

/-- A list whose value takes two lines, the second of them a comment. -/
def linesVariables : Variables :=
  .ofList [("list", .string "one\n# \x7b\x7bname\x7d\x7d"), ("name", .string "two")]

/-- A line between the list and the name. -/
def listText (line : String) : String :=
  "\x7b\x7blist\x7d\x7d\n" ++ line ++ "\n\x7b\x7bname\x7d\x7d"

/-- Behind a value of two lines, a comment that asks for an undefined variable stands as it is, and
one that asks for nothing may stand in its place. -/
theorem comment_behind_list :
    standardRenderer.isComment "  # \x7b\x7bgone\x7d\x7d".toList = true ∧
      standardRenderer.isComment "#".toList = true ∧
      standardRenderer.render linesVariables (listText "  # \x7b\x7bgone\x7d\x7d") =
        .ok "one\n# \x7b\x7bname\x7d\x7d\n  # \x7b\x7bgone\x7d\x7d\ntwo" ∧
      Corresponds (fun out out' => ∃ above below,
          lines out.toList = above ++ "  # \x7b\x7bgone\x7d\x7d".toList :: below ∧
          lines out'.toList = above ++ "#".toList :: below)
        (standardRenderer.render linesVariables (listText "  # \x7b\x7bgone\x7d\x7d"))
        (standardRenderer.render linesVariables (listText "#")) := by
  have hc : standardRenderer.isComment "  # \x7b\x7bgone\x7d\x7d".toList = true := by
    decide +kernel
  have hc' : standardRenderer.isComment "#".toList = true := by decide +kernel
  have hrender :
      standardRenderer.render linesVariables (listText "  # \x7b\x7bgone\x7d\x7d") =
        .ok "one\n# \x7b\x7bname\x7d\x7d\n  # \x7b\x7bgone\x7d\x7d\ntwo" := by
    decide +kernel
  have htext : lines (listText "  # \x7b\x7bgone\x7d\x7d").toList =
      ["\x7b\x7blist\x7d\x7d".toList] ++
        "  # \x7b\x7bgone\x7d\x7d".toList :: ["\x7b\x7bname\x7d\x7d".toList] := by
    decide +kernel
  have hother : (listText "#").toList = unlines (["\x7b\x7blist\x7d\x7d".toList] ++
      "#".toList :: ["\x7b\x7bname\x7d\x7d".toList]) := by
    decide +kernel
  exact ⟨hc, hc', hrender, (render_of_comment hc hc' (by decide) htext hother).1⟩

end LayeredConfig.Template.Renderer
