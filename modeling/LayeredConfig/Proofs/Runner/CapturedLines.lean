import LayeredConfig.Proofs.Text.ByteOrder
import LayeredConfig.Proofs.Text.Lines
import LayeredConfig.Runner.Capture

/-!
# Which lines are captured

Octets are divided by their line feeds, and each line loses the carriage return in front of its
line feed. What is captured are the lines up to the first one that is no text. So every line that
is a text is captured exactly when no such line follows one that is no text.
-/

namespace LayeredConfig.Capture

variable {octets rest line : List UInt8} {ended : List (List UInt8)} {text : String}

/-! ## The lines of octets -/

/-- The octets are lines with a line feed behind each, and what stands behind the last of them. -/
structure IsDivided (octets : List UInt8) (ended : List (List UInt8)) (rest : List UInt8) :
    Prop where
  /-- Together they are the octets. -/
  octets_eq : octets = ended.flatMap (· ++ [lineFeed]) ++ rest
  /-- No line has a line feed in it. -/
  not_mem_ended : ∀ line ∈ ended, lineFeed ∉ line
  /-- Nothing behind the last line feed is one. -/
  not_mem_rest : lineFeed ∉ rest

/-- The lines of divided octets without their ends. What stands behind the last line feed has no
end, and is a line unless it is empty. -/
def contents (ended : List (List UInt8)) (rest : List UInt8) : List (List UInt8) :=
  ended.map withoutReturn ++ if rest = [] then [] else [rest]

/-- All octets can be divided. -/
theorem exists_isDivided (octets : List UInt8) : ∃ ended rest, IsDivided octets ended rest := by
  induction octets with
  | nil => exact ⟨[], [], rfl, by simp, by simp⟩
  | cons octet octets ih =>
    obtain ⟨ended, rest, rfl, hended, hrest⟩ := ih
    by_cases hfeed : octet = lineFeed
    · exact ⟨[] :: ended, rest, by simp [hfeed], by simpa using hended, hrest⟩
    · cases ended with
      | nil => exact ⟨[], octet :: rest, rfl, by simp, by simp [Ne.symm hfeed, hrest]⟩
      | cons line others =>
        obtain ⟨hline, hothers⟩ := List.forall_mem_cons.mp hended
        exact ⟨(octet :: line) :: others, rest, by simp,
          List.forall_mem_cons.mpr ⟨by simp [Ne.symm hfeed, hline], hothers⟩, hrest⟩

/-- A line feed ends the line that was gathered. -/
theorem go_append_lineFeed (gathered : List UInt8) (h : lineFeed ∉ line) (octets : List UInt8) :
    lines.go gathered (line ++ lineFeed :: octets) =
      withoutReturn (gathered.reverse ++ line) :: lines.go [] octets := by
  induction line generalizing gathered with
  | nil => simp [lines.go]
  | cons octet line ih =>
    obtain ⟨hoctet, hline⟩ := List.ne_and_not_mem_of_not_mem_cons h
    rw [List.cons_append, lines.go, if_neg (Ne.symm hoctet), ih _ hline]
    simp

/-- What no line feed ends is a line with what was gathered, unless both are empty. -/
theorem go_of_not_mem (gathered : List UInt8) (h : lineFeed ∉ rest) :
    lines.go gathered rest =
      if gathered.reverse ++ rest = [] then [] else [gathered.reverse ++ rest] := by
  induction rest generalizing gathered with
  | nil => simp [lines.go]
  | cons octet rest ih =>
    obtain ⟨hoctet, hrest⟩ := List.ne_and_not_mem_of_not_mem_cons h
    rw [lines.go, if_neg (Ne.symm hoctet), ih _ hrest]
    simp

/-- The lines of octets are those that the octets are divided into. -/
theorem IsDivided.lines_eq (h : IsDivided octets ended rest) :
    lines octets = contents ended rest := by
  obtain ⟨rfl, hended, hrest⟩ := h
  rw [lines, contents]
  induction ended with
  | nil =>
    rw [List.flatMap_nil, List.nil_append, go_of_not_mem [] hrest]
    rfl
  | cons line others ih =>
    obtain ⟨hline, hothers⟩ := List.forall_mem_cons.mp hended
    rw [List.flatMap_cons, List.append_assoc, List.append_assoc, List.singleton_append,
      go_append_lineFeed [] hline, ih hothers]
    simp

/-- No line holds a line feed. -/
theorem IsDivided.not_mem_contents (h : IsDivided octets ended rest)
    (hline : line ∈ contents ended rest) : lineFeed ∉ line := by
  rw [contents, List.mem_append, List.mem_map] at hline
  rcases hline with ⟨whole, hwhole, rfl⟩ | hline
  · intro hmem
    refine h.not_mem_ended whole hwhole ?_
    rw [withoutReturn] at hmem
    split at hmem
    · exact (List.dropLast_sublist whole).subset hmem
    · exact hmem
  · split at hline
    · cases hline
    · rw [List.mem_singleton.mp hline]
      exact h.not_mem_rest

/-! ## The texts among the lines -/

/-- The octets of a text are those that it was read from. -/
theorem octets_of_text? (h : text? line = some text) : Text.octets text = line := by
  rw [text?, String.fromUTF8?] at h
  split at h
  · cases h
    rfl
  · cases h

/-- A text of octets without line feeds has no line feed. -/
theorem newline_not_mem_of_text? (h : text? line = some text) (hline : lineFeed ∉ line) :
    '\n' ∉ text.toList := by
  intro hmem
  rw [← octets_of_text? h, Text.octets_eq_flatMap] at hline
  exact hline (List.mem_flatMap.mpr ⟨'\n', hmem, by decide⟩)

/-- The captured texts are those of the lines up to the first that is no text. -/
theorem texts_eq (parts : List (List UInt8)) :
    texts parts = (parts.takeWhile fun line => (text? line).isSome).filterMap text? := by
  induction parts with
  | nil => rfl
  | cons line others ih =>
    rw [texts]
    cases hline : text? line with
    | none => simp [hline]
    | some text => simp [hline, ih]

/-- The captured texts are the first of all texts. -/
theorem texts_isPrefix (parts : List (List UInt8)) : texts parts <+: parts.filterMap text? := by
  rw [texts_eq]
  exact (List.takeWhile_prefix _).filterMap text?

/-- All texts are captured exactly when none follows a line that is no text. -/
theorem texts_eq_filterMap_iff {parts : List (List UInt8)} :
    texts parts = parts.filterMap text? ↔
      ∀ before line after, parts = before ++ line :: after → text? line = none →
        ∀ other ∈ after, text? other = none := by
  induction parts with
  | nil => simp [texts]
  | cons first others ih =>
    rw [texts]
    cases hfirst : text? first with
    | none =>
      simp only [List.filterMap_cons_none hfirst]
      rw [eq_comm, List.filterMap_eq_nil_iff]
      constructor
      · intro hnone before line after hsplit _ other hother
        rcases List.cons_eq_append_iff.mp hsplit with ⟨-, hsame⟩ | ⟨front, -, hothers⟩
        · cases hsame
          exact hnone other hother
        · exact hnone other (by simp [hothers, hother])
      · intro h
        exact h [] first others rfl hfirst
    | some text =>
      simp only [List.filterMap_cons_some hfirst, List.cons.injEq, true_and]
      rw [ih]
      constructor
      · intro h before line after hsplit hline
        rcases List.cons_eq_append_iff.mp hsplit with ⟨-, hsame⟩ | ⟨front, -, hothers⟩
        · cases hsame
          rw [hfirst] at hline
          cases hline
        · exact h front line after hothers hline
      · intro h before line after hsplit hline
        exact h (first :: before) line after (by rw [hsplit]; rfl) hline

/-! ## The lines of a captured text -/

/-- The text is made of lines with a line feed behind each, and the given lines stand among them in
their order. -/
def HoldsLines (text : String) (wanted : List String) : Prop :=
  ∃ written : List String, text = String.join (written.map (· ++ "\n")) ∧
    (∀ line ∈ written, '\n' ∉ line.toList) ∧ wanted.Sublist written

/-- A text that is written from lines has these lines, and nothing behind the last line feed. -/
theorem lines_join {written : List String} (h : ∀ line ∈ written, '\n' ∉ line.toList) :
    Text.lines (String.join (written.map (· ++ "\n"))).toList =
      written.map String.toList ++ [[]] := by
  rw [String.toList_join, List.flatMap_map]
  induction written with
  | nil => rfl
  | cons line others ih =>
    obtain ⟨hline, hothers⟩ := List.forall_mem_cons.mp h
    have hfeed : (line ++ "\n").toList = line.toList ++ ['\n'] := String.toList_append
    rw [List.flatMap_cons, hfeed, List.append_assoc, List.singleton_append, Text.lines_append,
      ih hothers, Text.lines_of_not_mem hline]
    rfl

/-- A text is written from one list of lines only. -/
theorem eq_of_join_eq {written other : List String} (h : ∀ line ∈ written, '\n' ∉ line.toList)
    (hother : ∀ line ∈ other, '\n' ∉ line.toList)
    (hsame : String.join (written.map (· ++ "\n")) = String.join (other.map (· ++ "\n"))) :
    written = other := by
  have hlines := lines_join h
  rw [hsame, lines_join hother] at hlines
  exact ((List.map_inj_right fun _ _ heq => String.toList_injective heq).mp
    (List.append_cancel_right hlines)).symm

/-- Every line that is a text stands in the captured text, in order, exactly when no such line
follows one that is no text. -/
theorem IsDivided.holdsLines_capture_iff {output : ByteArray}
    (h : IsDivided output.toList ended rest) :
    HoldsLines (capture output) ((contents ended rest).filterMap text?) ↔
      ∀ before line after, contents ended rest = before ++ line :: after → text? line = none →
        ∀ other ∈ after, text? other = none := by
  have hfeedless : ∀ line ∈ texts (contents ended rest), '\n' ∉ line.toList := by
    intro text htext
    obtain ⟨line, hline, hread⟩ :=
      List.mem_filterMap.mp ((texts_isPrefix (contents ended rest)).subset htext)
    exact newline_not_mem_of_text? hread (h.not_mem_contents hline)
  rw [← texts_eq_filterMap_iff, capture, h.lines_eq]
  constructor
  · rintro ⟨written, hwritten, hlines, hsublist⟩
    rw [← eq_of_join_eq hfeedless hlines hwritten] at hsublist
    exact (texts_isPrefix _).sublist.eq_of_length_le hsublist.length_le
  · intro hall
    exact ⟨_, rfl, hfeedless, hall ▸ List.Sublist.refl _⟩

/-- Any octets are divided by their line feeds. What is captured of them are the texts of the lines
before the first that is no text, each with a line feed behind it. Every line that is a text stands
in the captured text, in order, exactly when no such line follows one that is no text. -/
theorem capture_of_octets (output : ByteArray) :
    ∃ ended rest, IsDivided output.toList ended rest ∧
      (∃ taken left, contents ended rest = taken ++ left ∧
        (∀ line ∈ taken, (text? line).isSome) ∧ (∀ line ∈ left.head?, text? line = none) ∧
        capture output = String.join ((taken.filterMap text?).map (· ++ "\n"))) ∧
      (HoldsLines (capture output) ((contents ended rest).filterMap text?) ↔
        ∀ before line after, contents ended rest = before ++ line :: after → text? line = none →
          ∀ other ∈ after, text? other = none) := by
  obtain ⟨ended, rest, h⟩ := exists_isDivided output.toList
  refine ⟨ended, rest, h, ?_, h.holdsLines_capture_iff⟩
  refine ⟨(contents ended rest).takeWhile fun line => (text? line).isSome,
    (contents ended rest).dropWhile fun line => (text? line).isSome,
    List.takeWhile_append_dropWhile.symm, List.all_eq_true.mp List.all_takeWhile, ?_, ?_⟩
  · intro line hline
    have hnot := List.head?_dropWhile_not (fun line => (text? line).isSome) (contents ended rest)
    rw [Option.mem_def.mp hline] at hnot
    simpa using hnot
  · rw [capture, h.lines_eq, texts_eq]

-- A carriage return in front of a line feed goes, one at the very end stays.
example : capture ⟨#[0x61, 0x0d, 0x0a, 0x0a, 0x62, 0x0d]⟩ = "a\n\nb\r\n" := by decide +kernel

/-- A line behind one that is no text is lost. -/
theorem later_line_is_lost :
    IsDivided (ByteArray.mk #[0x61, 0x0a, 0xff, 0x0a, 0x62, 0x0a]).toList
        [[0x61], [0xff], [0x62]] [] ∧
      (contents [[0x61], [0xff], [0x62]] []).filterMap text? = ["a", "b"] ∧
      capture ⟨#[0x61, 0x0a, 0xff, 0x0a, 0x62, 0x0a]⟩ = "a\n" ∧
      ¬ HoldsLines "a\n" ["a", "b"] := by
  refine ⟨⟨by decide +kernel, by decide, by decide⟩, by decide +kernel, by decide +kernel, ?_⟩
  rintro ⟨written, hwritten, hlines, hsublist⟩
  have hlength := congrArg List.length (lines_join hlines)
  have hshort : (Text.lines "a\n".toList).length = 2 := by decide
  rw [← hwritten, hshort, List.length_append, List.length_map, List.length_singleton] at hlength
  have hboth : 2 ≤ written.length := hsublist.length_le
  omega

end LayeredConfig.Capture
