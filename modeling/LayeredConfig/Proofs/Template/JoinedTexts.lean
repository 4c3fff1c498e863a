import LayeredConfig.Proofs.Template.MissingReport

/-!
# Passes over joined texts

A pass reads a text line by line, so it does not see where one text ends and another one
begins behind a line feed. The outcome for the joined text is made of the outcomes for
the two: results are joined, and reports follow each other, the second with its lines
counted on from the end of the first. No placeholder goes over a line feed, so those of the
joined text are those of the two, and a report has all of them that have no value.
-/

namespace LayeredConfig.Template

open Text

/-- The same placeholder on a line that is some lines further down. -/
def Missing.below (n : ℕ) (m : Missing) : Missing := ⟨m.line + n, m.name⟩

/-- The placeholders without a value that an outcome reports. A result reports none. -/
def reported {α : Type} : Except Error α → List Missing
  | .ok _ => []
  | .error e => e.missing

/-- The outcome for two texts that are joined by a line feed, from the number of lines of the
first and the outcomes for both. -/
def joinedOutcome (n : ℕ) :
    Except Error (String × Bool) → Except Error (String × Bool) → Except Error (String × Bool)
  | .ok (first, changed), .ok (second, changed') =>
    .ok (first ++ "\n" ++ second, changed || changed')
  | first, second =>
    .error (.missingVariables (reported first ++ (reported second).map (Missing.below n)))

/-- Joined outcomes are a failure as soon as one of them reports something. -/
theorem joinedOutcome_of_reported {n : ℕ} {first second : Except Error (String × Bool)}
    (h : reported first ++ reported second ≠ []) :
    joinedOutcome n first second =
      .error (.missingVariables (reported first ++ (reported second).map (Missing.below n))) := by
  cases first with
  | error e => rfl
  | ok result =>
    cases second with
    | error e => rfl
    | ok other => exact absurd rfl h

namespace Renderer

variable {r : Renderer} {vars : Variables} {text : List Char}

/-! ## Placeholders and their lines -/

/-- The texts inside the placeholders of lines outside comments, in order and with the numbers of
their lines, which are counted from a first one. -/
def placeholdersFrom (r : Renderer) (number : ℕ) (texts : List (List Char)) :
    List (ℕ × List Char) :=
  (texts.zipIdx number).flatMap fun (line, n) =>
    ((r.lineSegments line).flatMap Segment.inner).map (n, ·)

/-- The texts inside the placeholders of a text, with their lines. -/
def placeholders (r : Renderer) (text : List Char) : List (ℕ × List Char) :=
  r.placeholdersFrom 1 (lines text)

/-- The same placeholders on lines that are some lines further down. -/
def placeholdersBelow (n : ℕ) (found : List (ℕ × List Char)) : List (ℕ × List Char) :=
  found.map fun (line, inner) => (line + n, inner)

/-- Those of numbered placeholders that have no value, as they are reported. -/
def valueless (vars : Variables) (found : List (ℕ × List Char)) : List Missing :=
  (found.filter fun (_, inner) => vars.lookup? (placeholderName inner) = none).map
    fun (line, inner) => ⟨line, placeholderName inner⟩

/-- The placeholders of lines are those of the first and then those of the rest, a line further
down. -/
theorem placeholdersFrom_cons (number : ℕ) (line : List Char) (rest : List (List Char)) :
    r.placeholdersFrom number (line :: rest) =
      ((r.lineSegments line).flatMap Segment.inner).map (number, ·) ++
        r.placeholdersFrom (number + 1) rest := rfl

/-- Lines that are counted from a later number have the same placeholders, further down. -/
theorem placeholdersFrom_add (number n : ℕ) (texts : List (List Char)) :
    r.placeholdersFrom (number + n) texts =
      placeholdersBelow n (r.placeholdersFrom number texts) := by
  induction texts generalizing number with
  | nil => rfl
  | cons line rest ih =>
    have hnext : number + n + 1 = number + 1 + n := by omega
    rw [placeholdersFrom_cons, placeholdersFrom_cons, hnext, ih, placeholdersBelow,
      placeholdersBelow, List.map_append, List.map_map]
    rfl

/-- Joined texts have the placeholders of the first and then those of the second, further down. -/
theorem placeholders_append (first second : List Char) :
    r.placeholders (first ++ '\n' :: second) =
      r.placeholders first ++ placeholdersBelow (lines first).length (r.placeholders second) := by
  rw [placeholders, placeholders, placeholders, ← placeholdersFrom_add, lines_append,
    placeholdersFrom, List.zipIdx_append, List.flatMap_append]
  rfl

/-- A placeholder is written without a line feed, delimiters included. -/
theorem newline_not_mem_of_mem_placeholders {found : ℕ × List Char}
    (h : found ∈ r.placeholders text) :
    '\n' ∉ (Segment.placeholder found.2).written r.delimiters := by
  obtain ⟨⟨line, number⟩, hline, hfound⟩ := List.mem_flatMap.mp h
  obtain ⟨inner, hinner, rfl⟩ := List.mem_map.mp hfound
  have hseg : .placeholder inner ∈ r.lineSegments line := mem_flatMap_inner.mp hinner
  intro hfeed
  exact newline_not_mem_of_mem_lines (List.fst_mem_of_mem_zipIdx hline)
    (mem_of_mem_written hseg hfeed)

/-! ## What is missing in joined texts -/

/-- Of placeholders one after the other, those without a value follow each other. -/
theorem valueless_append (first second : List (ℕ × List Char)) :
    valueless vars (first ++ second) = valueless vars first ++ valueless vars second := by
  rw [valueless, List.filter_append, List.map_append]
  rfl

/-- Of placeholders further down, the same have no value. -/
theorem valueless_below (n : ℕ) (found : List (ℕ × List Char)) :
    valueless vars (placeholdersBelow n found) =
      (valueless vars found).map (Missing.below n) := by
  rw [valueless, placeholdersBelow, List.filter_map, List.map_map, valueless, List.map_map]
  rfl

/-- What the segments of a line miss are those of their placeholders that have no value. -/
theorem map_mk_filterMap_missingName? (number : ℕ) (segs : List Segment) :
    (segs.filterMap (missingName? vars)).map (Missing.mk number) =
      valueless vars ((segs.flatMap Segment.inner).map (number, ·)) := by
  induction segs with
  | nil => rfl
  | cons seg rest ih =>
    cases seg with
    | literal text => exact ih
    | placeholder inner =>
      rw [List.flatMap_cons, List.map_append, valueless_append, ← ih]
      cases hvalue : vars.lookup? (placeholderName inner) with
      | some value => simp [valueless, missingName?, placeholderText?, Segment.inner, hvalue]
      | none => simp [valueless, missingName?, placeholderText?, Segment.inner, hvalue]

/-- What lines miss are those of their placeholders that have no value. -/
theorem missingFrom_eq_valueless (number : ℕ) (texts : List (List Char)) :
    r.missingFrom vars number texts = valueless vars (r.placeholdersFrom number texts) := by
  induction texts generalizing number with
  | nil => rfl
  | cons line rest ih =>
    rw [missingFrom, ih, missingNames, map_mk_filterMap_missingName?, placeholdersFrom_cons,
      valueless_append]

/-- A strict renderer objects to the placeholders without a value, and a lenient one to nothing. -/
theorem missingIn_eq_valueless (text : List Char) :
    r.missingIn vars text =
      if r.requireAll then valueless vars (r.placeholders text) else [] := by
  rw [missingIn, missingFrom_eq_valueless]
  rfl

/-- The renderer objects to what is missing in the first text, and then to what is missing in the
second. -/
theorem missingIn_append (first second : List Char) :
    r.missingIn vars (first ++ '\n' :: second) =
      r.missingIn vars first ++
        (r.missingIn vars second).map (Missing.below (lines first).length) := by
  rw [missingIn_eq_valueless, missingIn_eq_valueless, missingIn_eq_valueless,
    placeholders_append, valueless_append, valueless_below]
  cases r.requireAll <;> rfl

/-! ## One pass over joined texts -/

/-- Joined texts are filled one after the other. -/
theorem filled_append (first second : List Char) :
    r.filled vars (first ++ '\n' :: second) =
      r.filled vars first ++ '\n' :: r.filled vars second := by
  have hne : ∀ text, (lines text).map (r.fillLine vars) ≠ [] :=
    fun text h => splitAtChar_ne_nil _ _ (List.map_eq_nil_iff.mp h)
  rw [filled, lines_append, List.map_append, unlines, joinWithChar_append (hne first) (hne second)]
  rfl

/-- A pass over a text to which the renderer does not object has a result. -/
theorem substituteOnce_of_missingIn_eq_nil {text : String}
    (h : r.missingIn vars text.toList = []) :
    r.substituteOnce vars text = .ok (String.ofList (r.filled vars text.toList),
      (lines text.toList).any (r.changesLine vars)) := by
  rw [substituteOnce, pass_of_missingIn_eq_nil h]

/-- A pass over a text to which the renderer objects reports all that it objects to. -/
theorem substituteOnce_of_missingIn_ne_nil {text : String}
    (h : r.missingIn vars text.toList ≠ []) :
    r.substituteOnce vars text = .error (.missingVariables (r.missingIn vars text.toList)) := by
  rw [substituteOnce_eq_error_iff, pass]
  cases hmissing : r.missingIn vars text.toList with
  | nil => exact absurd hmissing h
  | cons m more => rfl

/-- A pass reports what the renderer objects to, and nothing else. -/
theorem reported_substituteOnce (text : String) :
    reported (r.substituteOnce vars text) = r.missingIn vars text.toList := by
  by_cases hnone : r.missingIn vars text.toList = []
  · rw [substituteOnce_of_missingIn_eq_nil hnone, hnone]
    rfl
  · rw [substituteOnce_of_missingIn_ne_nil hnone]
    rfl

/-- A pass fails only by such a report, and the report is not empty. -/
theorem exists_missing_of_substituteOnce_eq_error {text : String} {e : Error}
    (h : r.substituteOnce vars text = .error e) : ∃ m more, e = .missingVariables (m :: more) := by
  by_cases hnone : r.missingIn vars text.toList = []
  · rw [substituteOnce_of_missingIn_eq_nil hnone] at h
    cases h
  · obtain ⟨m, more, hmore⟩ := List.exists_cons_of_ne_nil hnone
    rw [substituteOnce_of_missingIn_ne_nil hnone, hmore] at h
    cases h
    exact ⟨m, more, rfl⟩

/-- Texts that are joined by a line feed, as characters. -/
theorem toList_append_newline (first second : String) :
    (first ++ "\n" ++ second).toList = first.toList ++ '\n' :: second.toList := by
  simp

/-- A pass over joined texts has the joined outcome of the passes over the two. -/
theorem substituteOnce_append (first second : String) :
    r.substituteOnce vars (first ++ "\n" ++ second) =
      joinedOutcome (lines first.toList).length (r.substituteOnce vars first)
        (r.substituteOnce vars second) := by
  have hmissing : r.missingIn vars (first ++ "\n" ++ second).toList =
      r.missingIn vars first.toList ++
        (r.missingIn vars second.toList).map (Missing.below (lines first.toList).length) := by
    rw [toList_append_newline, missingIn_append]
  by_cases hnone : r.missingIn vars first.toList ++ r.missingIn vars second.toList = []
  · obtain ⟨hfirst, hsecond⟩ := List.append_eq_nil_iff.mp hnone
    rw [hfirst, hsecond, List.map_nil, List.append_nil] at hmissing
    rw [substituteOnce_of_missingIn_eq_nil hmissing, substituteOnce_of_missingIn_eq_nil hfirst,
      substituteOnce_of_missingIn_eq_nil hsecond, joinedOutcome, toList_append_newline,
      filled_append, lines_append, List.any_append]
    simp [String.append_assoc]
  · have hreports := hnone
    rw [← reported_substituteOnce, ← reported_substituteOnce] at hreports
    have hsome : r.missingIn vars (first ++ "\n" ++ second).toList ≠ [] := by
      rw [hmissing]
      simpa using hnone
    rw [substituteOnce_of_missingIn_ne_nil hsome, joinedOutcome_of_reported hreports,
      reported_substituteOnce, reported_substituteOnce, hmissing]

/-- A pass over two texts joined by a line feed has the outcome that is joined from those of the
two: both results, or the report of the first with that of the second behind it, further down. It
fails only by such a report. The placeholders of the joined text are those of the first and those
of the second in their order, further down, and none of them goes over a line feed. A strict pass
over any text reports exactly those without a value, in their order, with the lines they stand on
and the names they ask for, and a lenient one reports nothing. -/
theorem substituteOnce_joined (r : Renderer) (vars : Variables) (first second : String) :
    r.substituteOnce vars (first ++ "\n" ++ second) =
      joinedOutcome (lines first.toList).length (r.substituteOnce vars first)
        (r.substituteOnce vars second) ∧
    (∀ text e, r.substituteOnce vars text = .error e →
      ∃ m more, e = .missingVariables (m :: more)) ∧
    r.placeholders (first ++ "\n" ++ second).toList =
      r.placeholders first.toList ++
        placeholdersBelow (lines first.toList).length (r.placeholders second.toList) ∧
    (∀ text, ∀ found ∈ r.placeholders text,
      '\n' ∉ (Segment.placeholder found.2).written r.delimiters) ∧
    ∀ text, reported (r.substituteOnce vars text) =
      if r.requireAll then valueless vars (r.placeholders text.toList) else [] := by
  refine ⟨substituteOnce_append first second, fun text e => ?_, ?_, fun text found => ?_,
    fun text => ?_⟩
  · exact exists_missing_of_substituteOnce_eq_error
  · rw [toList_append_newline, placeholders_append]
  · exact newline_not_mem_of_mem_placeholders
  · rw [reported_substituteOnce, missingIn_eq_valueless]

/-- What is opened before the line feed is not closed behind it. -/
example : standardRenderer.substituteOnce .empty
    ("\x7b\x7ba\x7d\x7d\n\x7b\x7bb" ++ "\n" ++ "\x7d\x7d\x7b\x7bc\x7d\x7d") =
      .error (.missingVariables [⟨1, "a"⟩, ⟨3, "c"⟩]) := by
  decide +kernel

end Renderer

end LayeredConfig.Template
