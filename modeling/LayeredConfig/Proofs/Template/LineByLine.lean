import LayeredConfig.Proofs.Template.MissingReport

/-!
# Rendering line by line

Where no value holds a line feed, a pass makes one line of each line, so the lines of a
text never meet. Rendering a text is then rendering its lines, each on its own, though all
of them go through as many passes as the one that needs most: a line that has come to rest
stays as it is. And what is reported as missing is reported with the number of the line
that it came from, in whichever pass it came up.
-/

namespace LayeredConfig

/-- No text of a variable holds a line feed. -/
def Variables.HasSingleLineValues (vars : Variables) : Prop :=
  ∀ entry ∈ vars.entries, ∀ value ∈ entry.2.text?, '\n' ∉ value.toList

instance : DecidablePred Variables.HasSingleLineValues := fun vars =>
  have : ∀ entry : String × Value, Decidable (∀ value ∈ entry.2.text?, '\n' ∉ value.toList) :=
    fun entry => Option.decidableForallMem (p := fun value => '\n' ∉ value.toList) entry.2.text?
  inferInstanceAs (Decidable (∀ entry ∈ vars.entries, ∀ value ∈ entry.2.text?, '\n' ∉ value.toList))

namespace Template.Renderer

open Text

variable {r : Renderer} {vars : Variables} {text line : List Char} {missing : List Missing} {n : ℕ}

/-! ## The lines of a text after passes -/

/-- A line without line feeds is filled to one without. -/
theorem newline_not_mem_fillLine (hvalues : vars.HasSingleLineValues) (hline : '\n' ∉ line) :
    '\n' ∉ r.fillLine vars line := by
  intro hfeed
  rcases mem_fill hfeed with hwritten | ⟨inner, value, -, hvalue, hfeed⟩
  · rw [written, flatMap_written_lineSegments] at hwritten
    exact hline hwritten
  · obtain ⟨entry, hentry, htext⟩ := Variables.exists_mem_of_lookup? hvalue
    exact hvalues entry hentry value htext hfeed

/-- A text of one line is filled as that line. -/
theorem filled_of_not_mem (hline : '\n' ∉ line) : r.filled vars line = r.fillLine vars line := by
  rw [filled, lines_of_not_mem hline]
  rfl

/-- The lines of a filled text are its lines, filled. -/
theorem lines_filled_of_single (hvalues : vars.HasSingleLineValues) (text : List Char) :
    lines (r.filled vars text) = (lines text).map (r.filled vars) := by
  have hline : ∀ line ∈ lines text, lines (r.fillLine vars line) = [r.filled vars line] := by
    intro line hmem
    have hfeed := newline_not_mem_of_mem_lines hmem
    rw [lines_of_not_mem (newline_not_mem_fillLine hvalues hfeed), filled_of_not_mem hfeed]
  rw [lines_filled, List.flatMap_congr hline, List.map_eq_flatMap]

/-- The lines of a text that is filled a number of times are its lines, filled as often. -/
theorem lines_filledTimes (hvalues : vars.HasSingleLineValues) (n : ℕ) (text : List Char) :
    lines (r.filledTimes vars n text) = (lines text).map (r.filledTimes vars n) := by
  induction n with
  | zero => exact (List.map_id _).symm
  | succ n ih =>
    have hstep : r.filledTimes vars (n + 1) = r.filled vars ∘ r.filledTimes vars n :=
      funext fun line => filledTimes_succ n line
    rw [filledTimes_succ, lines_filled_of_single hvalues, ih, List.map_map, hstep]

/-- A line stays one line, however often it is filled. -/
theorem lines_filledTimes_line (hvalues : vars.HasSingleLineValues) (n : ℕ) (hline : '\n' ∉ line) :
    lines (r.filledTimes vars n line) = [r.filledTimes vars n line] := by
  rw [lines_filledTimes hvalues, lines_of_not_mem hline]
  rfl

/-! ## Coming to rest -/

/-- The text does not change any more after a number of passes, and the renderer objects to nothing
that comes up. -/
structure ComesToRest (r : Renderer) (vars : Variables) (n : ℕ) (text : List Char) : Prop where
  /-- One more pass changes nothing. -/
  unchanged : r.Unchanged vars (r.filledTimes vars n text)
  /-- The renderer objects to no text on the way or later. -/
  complete : ∀ i, r.missingIn vars (r.filledTimes vars i text) = []

/-- Passes have a result when the text comes to rest before the last of them. -/
theorem passes_succ_eq_ok_iff {out : List Char} :
    r.passes vars (n + 1) text = .ok out ↔
      r.ComesToRest vars n text ∧ out = r.filledTimes vars n text := by
  rw [passes_eq_ok_iff]
  constructor
  · rintro ⟨m, hm, rfl, hunchanged, hall⟩
    have hlast : r.filledTimes vars n text = r.filledTimes vars m text :=
      hunchanged.filledTimes_of_le (by omega)
    exact ⟨⟨hlast.symm ▸ hunchanged, hunchanged.missingIn_filledTimes hall⟩, hlast.symm⟩
  · rintro ⟨⟨hunchanged, hall⟩, rfl⟩
    exact ⟨n, by omega, rfl, hunchanged, fun i _ => hall i⟩

/-- The placeholders of a text are those of its lines. -/
theorem hasPlaceholder_iff_lines (text : List Char) {inner : List Char} :
    r.HasPlaceholder text inner ↔ ∃ line ∈ lines text, r.HasPlaceholder line inner := by
  have hline : ∀ line ∈ lines text,
      (.placeholder inner ∈ r.lineSegments line ↔ r.HasPlaceholder line inner) := by
    intro line hmem
    rw [HasPlaceholder, lines_of_not_mem (newline_not_mem_of_mem_lines hmem)]
    simp
  constructor
  · rintro ⟨line, hmem, hinner⟩
    exact ⟨line, hmem, (hline line hmem).mp hinner⟩
  · rintro ⟨line, hmem, hinner⟩
    exact ⟨line, hmem, (hline line hmem).mpr hinner⟩

/-- No pass changes a text when no pass changes one of its lines. -/
theorem unchanged_iff_lines :
    r.Unchanged vars text ↔ ∀ line ∈ lines text, r.Unchanged vars line := by
  simp only [Unchanged, hasPlaceholder_iff_lines text]
  constructor
  · intro h line hmem inner hinner
    exact h inner ⟨line, hmem, hinner⟩
  · rintro h inner ⟨line, hmem, hinner⟩
    exact h line hmem inner hinner

/-- The renderer objects to nothing in a text when it objects to none of its lines. -/
theorem missingIn_eq_nil_iff_lines :
    r.missingIn vars text = [] ↔ ∀ line ∈ lines text, r.missingIn vars line = [] := by
  simp only [missingIn_eq_nil_iff, hasPlaceholder_iff_lines text]
  constructor
  · intro h line hmem hmode inner hinner
    exact h hmode inner ⟨line, hmem, hinner⟩
  · rintro h hmode inner ⟨line, hmem, hinner⟩
    exact h line hmem hmode inner hinner

/-- A text comes to rest when each of its lines does. A line that is at rest waits for the
others. -/
theorem comesToRest_iff_lines (hvalues : vars.HasSingleLineValues) :
    r.ComesToRest vars n text ↔ ∀ line ∈ lines text, r.ComesToRest vars n line := by
  constructor
  · rintro ⟨hunchanged, hall⟩ line hmem
    have hthere : ∀ i, r.filledTimes vars i line ∈ lines (r.filledTimes vars i text) := by
      intro i
      rw [lines_filledTimes hvalues]
      exact List.mem_map_of_mem hmem
    exact ⟨unchanged_iff_lines.mp hunchanged _ (hthere n),
      fun i => missingIn_eq_nil_iff_lines.mp (hall i) _ (hthere i)⟩
  · intro h
    refine ⟨unchanged_iff_lines.mpr ?_, fun i => missingIn_eq_nil_iff_lines.mpr ?_⟩
    · rw [lines_filledTimes hvalues, List.forall_mem_map]
      exact fun line hmem => (h line hmem).unchanged
    · rw [lines_filledTimes hvalues, List.forall_mem_map]
      exact fun line hmem => (h line hmem).complete i

/-- Passes over each line alone have results when the text comes to rest, and these are the lines of
what the text is filled to. -/
theorem mapM_passes_lines_iff (hvalues : vars.HasSingleLineValues) {outs : List (List Char)} :
    (lines text).mapM (r.passes vars (n + 1)) = .ok outs ↔
      r.ComesToRest vars n text ∧ outs = lines (r.filledTimes vars n text) := by
  have houts : ∀ {outs}, (lines text).mapM (r.passes vars (n + 1)) = .ok outs →
      outs = lines (r.filledTimes vars n text) := by
    intro outs h
    rw [lines_filledTimes hvalues]
    exact eq_map_of_mapM (fun line _ out hout => (passes_succ_eq_ok_iff.mp hout).2) h
  rw [comesToRest_iff_lines hvalues]
  constructor
  · intro h
    refine ⟨fun line hmem => ?_, houts h⟩
    obtain ⟨out, hout⟩ := exists_mapM_eq_ok_iff.mp ⟨outs, h⟩ line hmem
    exact (passes_succ_eq_ok_iff.mp hout).1
  · rintro ⟨hrest, rfl⟩
    have hall : ∀ line ∈ lines text, ∃ out, r.passes vars (n + 1) line = .ok out :=
      fun line hmem => ⟨_, passes_succ_eq_ok_iff.mpr ⟨hrest line hmem, rfl⟩⟩
    obtain ⟨outs, h⟩ := exists_mapM_eq_ok_iff.mpr hall
    rw [h, houts h]

/-- Passes over a text have the result that is joined from those of the passes over its lines. -/
theorem passes_eq_ok_iff_lines (hvalues : vars.HasSingleLineValues) {out : List Char} :
    r.passes vars (n + 1) text = .ok out ↔
      ∃ outs, (lines text).mapM (r.passes vars (n + 1)) = .ok outs ∧ out = unlines outs := by
  simp only [passes_succ_eq_ok_iff, mapM_passes_lines_iff hvalues]
  constructor
  · rintro ⟨hrest, rfl⟩
    exact ⟨_, ⟨hrest, rfl⟩, (unlines_lines _).symm⟩
  · rintro ⟨outs, ⟨hrest, rfl⟩, rfl⟩
    exact ⟨hrest, unlines_lines _⟩

/-- Passes keep the number of lines. -/
theorem length_lines_of_passes (hvalues : vars.HasSingleLineValues) {out : List Char}
    (h : r.passes vars (n + 1) text = .ok out) : (lines out).length = (lines text).length := by
  obtain ⟨-, rfl⟩ := passes_succ_eq_ok_iff.mp h
  rw [lines_filledTimes hvalues, List.length_map]

/-- The lines of a text are rendered as their characters are. -/
theorem mapM_render_eq_map (r : Renderer) (vars : Variables) (texts : List (List Char)) :
    texts.mapM (fun line => r.render vars (String.ofList line)) =
      (texts.mapM (r.passes vars maxPasses)).map (List.map String.ofList) := by
  rw [← mapM_map_eq]
  simp only [render_eq_map, String.toList_ofList]

/-- Texts joined by line feeds are joined as their characters are. -/
theorem intercalate_map_ofList (texts : List (List Char)) :
    "\n".intercalate (texts.map String.ofList) = String.ofList (unlines texts) := by
  have hsame : (String.toList ∘ String.ofList) = id := funext fun _ => String.toList_ofList
  have hfeed : "\n".toList = ['\n'] := rfl
  rw [← String.toList_inj, String.toList_intercalate, List.map_map, hsame, List.map_id, hfeed,
    ← joinWithChar_eq_intercalate, String.toList_ofList]
  rfl

/-! ## Reports and line numbers -/

/-- What lines miss is missing on one of them, under its number. -/
theorem mem_missingFrom_iff {texts : List (List Char)} {number : ℕ} {m : Missing} :
    m ∈ r.missingFrom vars number texts ↔
      ∃ i line, texts[i]? = some line ∧ m.line = number + i ∧
        m.name ∈ r.missingNames vars line := by
  induction texts generalizing number with
  | nil => simp [missingFrom]
  | cons line rest ih =>
    rw [missingFrom, List.mem_append, ih, List.mem_map]
    constructor
    · rintro (⟨name, hname, rfl⟩ | ⟨i, other, hother, hnumber, hname⟩)
      · exact ⟨0, line, rfl, rfl, hname⟩
      · exact ⟨i + 1, other, hother, by omega, hname⟩
    · rintro ⟨i, other, hother, hnumber, hname⟩
      cases i with
      | zero =>
        obtain rfl := Option.some.inj hother
        exact .inl ⟨m.name, hname, by rw [← Nat.add_zero number, ← hnumber]⟩
      | succ i => exact .inr ⟨i, other, hother, by omega, hname⟩

/-- A rendering reports missing values only in strict mode, and then those of the first pass that
misses any. -/
theorem render_eq_missing_iff {text : String} :
    r.render vars text = .error (.missingVariables missing) ↔
      r.requireAll = true ∧ ∃ n < maxPasses, r.FirstMissing vars text.toList n ∧
        missing = r.withoutValue vars (r.filledTimes vars n text.toList) := by
  cases hmode : r.requireAll with
  | false =>
    have hr : r.requiring false = r := by rw [← hmode]; rfl
    simp only [Bool.false_eq_true, false_and, iff_false]
    intro h
    rw [← hr] at h
    cases eq_didNotConverge_of_render h
  | true =>
    have hr : r.requiring true = r := by rw [← hmode]; rfl
    rw [← render_strict_eq_missing_iff, hr]
    simp

/-- Filled lines miss what the filled text misses, under their numbers. -/
theorem withoutValue_filledTimes (hvalues : vars.HasSingleLineValues) (n : ℕ) (text : List Char) :
    r.withoutValue vars (r.filledTimes vars n text) =
      r.missingFrom vars 1 ((lines text).map (r.filledTimes vars n)) := by
  rw [withoutValue, lines_filledTimes hvalues]

/-- What a filled text misses is missing on one of its filled lines, under the number of that line
in the text. -/
theorem mem_withoutValue_filledTimes_iff (hvalues : vars.HasSingleLineValues) {m : Missing} :
    m ∈ r.withoutValue vars (r.filledTimes vars n text) ↔
      ∃ i line, (lines text)[i]? = some line ∧ m.line = 1 + i ∧
        m.name ∈ r.missingNames vars (r.filledTimes vars n line) := by
  rw [withoutValue_filledTimes hvalues, mem_missingFrom_iff]
  refine exists_congr fun i => ?_
  rw [List.getElem?_map]
  constructor
  · rintro ⟨later, hlater, hnumber, hname⟩
    obtain ⟨line, hline, rfl⟩ := Option.map_eq_some_iff.mp hlater
    exact ⟨line, hline, hnumber, hname⟩
  · rintro ⟨line, hline, hnumber, hname⟩
    exact ⟨_, Option.map_eq_some_iff.mpr ⟨line, hline, rfl⟩, hnumber, hname⟩

/-- A filled line that stands alone misses its names on the first line. -/
theorem withoutValue_filledTimes_line (hvalues : vars.HasSingleLineValues) (n : ℕ)
    (hline : '\n' ∉ line) :
    r.withoutValue vars (r.filledTimes vars n line) =
      (r.missingNames vars (r.filledTimes vars n line)).map (Missing.mk 1) := by
  rw [withoutValue, lines_filledTimes_line hvalues n hline, missingFrom, missingFrom,
    List.append_nil]

/-- A line that misses a name in the pass in which the text first misses one has missed none
before. -/
theorem FirstMissing.of_line (hvalues : vars.HasSingleLineValues) (h : r.FirstMissing vars text n)
    (hmem : line ∈ lines text) {name : String}
    (hname : name ∈ r.missingNames vars (r.filledTimes vars n line)) :
    r.FirstMissing vars line n := by
  have hline := newline_not_mem_of_mem_lines hmem
  constructor
  · intro i hi
    have hbefore := h.before i hi
    rw [withoutValue_filledTimes hvalues, missingFrom_eq_nil_iff, List.forall_mem_map] at hbefore
    rw [withoutValue_filledTimes_line hvalues i hline, hbefore line hmem, List.map_nil]
  · rw [withoutValue_filledTimes_line hvalues n hline]
    exact List.ne_nil_of_mem (List.mem_map_of_mem hname)

/-- Such a line fails alone, with a report of the name on its first line. -/
theorem FirstMissing.exists_report (hvalues : vars.HasSingleLineValues)
    (hmode : r.requireAll = true) (hn : n < maxPasses) (h : r.FirstMissing vars text n)
    (hmem : line ∈ lines text) {name : String}
    (hname : name ∈ r.missingNames vars (r.filledTimes vars n line)) :
    ∃ report, r.render vars (String.ofList line) = .error (.missingVariables report) ∧
      ⟨1, name⟩ ∈ report := by
  have hchars : (String.ofList line).toList = line := String.toList_ofList
  have hline := h.of_line hvalues hmem hname
  refine ⟨r.withoutValue vars (r.filledTimes vars n line), ?_, ?_⟩
  · exact render_eq_missing_iff.mpr ⟨hmode, n, hn, by rwa [hchars], by rw [hchars]⟩
  · rw [withoutValue_filledTimes_line hvalues n (newline_not_mem_of_mem_lines hmem)]
    exact List.mem_map_of_mem hname

/-- With values without line feeds, a text is rendered exactly when each of its lines is rendered
alone, and the result is the results of the lines, joined by line feeds, with as many lines. What a
failing rendering reports as missing stands on a line of the text, by its number, and rendering
that line alone fails with a report of the same name on its first line. -/
theorem render_of_lines (hvalues : vars.HasSingleLineValues) (text : String) :
    (∀ out, r.render vars text = .ok out ↔
      ∃ outs, (lines text.toList).mapM (fun line => r.render vars (String.ofList line)) = .ok outs ∧
        out = "\n".intercalate outs) ∧
    (∀ out, r.render vars text = .ok out →
      (lines out.toList).length = (lines text.toList).length) ∧
    ∀ missing, r.render vars text = .error (.missingVariables missing) → ∀ m ∈ missing,
      1 ≤ m.line ∧ m.line ≤ (lines text.toList).length ∧
      ∃ line report, (lines text.toList)[m.line - 1]? = some line ∧
        r.render vars (String.ofList line) = .error (.missingVariables report) ∧
        ⟨1, m.name⟩ ∈ report := by
  have hpasses : maxPasses = 29 + 1 := rfl
  refine ⟨fun out => ?_, fun out h => ?_, fun missing h m hm => ?_⟩
  · rw [render_eq_map, mapM_render_eq_map, except_map_eq_ok_iff, hpasses]
    simp only [except_map_eq_ok_iff, passes_eq_ok_iff_lines hvalues]
    constructor
    · rintro ⟨chars, ⟨outs, houts, rfl⟩, rfl⟩
      exact ⟨_, ⟨outs, houts, rfl⟩, (intercalate_map_ofList outs).symm⟩
    · rintro ⟨-, ⟨outs, houts, rfl⟩, rfl⟩
      exact ⟨_, ⟨outs, houts, rfl⟩, (intercalate_map_ofList outs).symm⟩
  · rw [render_eq_map, except_map_eq_ok_iff, hpasses] at h
    obtain ⟨chars, hchars, rfl⟩ := h
    rw [String.toList_ofList, length_lines_of_passes hvalues hchars]
  · obtain ⟨hmode, n, hn, hfirst, rfl⟩ := render_eq_missing_iff.mp h
    obtain ⟨i, line, hline, hnumber, hname⟩ := (mem_withoutValue_filledTimes_iff hvalues).mp hm
    obtain ⟨hi, -⟩ := List.getElem?_eq_some_iff.mp hline
    have hindex : m.line - 1 = i := by omega
    obtain ⟨report, hreport, hmem⟩ :=
      hfirst.exists_report hvalues hmode hn (List.mem_of_getElem? hline) hname
    exact ⟨by omega, by omega, line, report, hindex ▸ hline, hreport, hmem⟩

/-- A list of two hosts, one of which is not defined, and an address on the other. -/
def hostVariables : Variables :=
  .ofList [ ("hosts", .string "\x7b\x7bfirst\x7d\x7d, \x7b\x7bsecond\x7d\x7d"),
    ("first", .string "db1"), ("url", .string "http://\x7b\x7bfirst\x7d\x7d") ]

/-- Two lines that are rendered. -/
def addressText : String := "at \x7b\x7burl\x7d\x7d\n# \x7b\x7bnone\x7d\x7d"

/-- A third line that asks for the hosts. -/
def hostText : String := addressText ++ "\nof \x7b\x7bhosts\x7d\x7d"

/-- The address and the comment are rendered line by line. The undefined host comes up in the second
pass, on the third line of the text, and on the only line of that line. -/
theorem second_host_is_missing :
    hostVariables.HasSingleLineValues ∧
      (∃ outs, (lines addressText.toList).mapM (fun line =>
          standardRenderer.render hostVariables (String.ofList line)) = .ok outs ∧
        "at http://db1\n# \x7b\x7bnone\x7d\x7d" = "\n".intercalate outs) ∧
      standardRenderer.render hostVariables hostText =
        .error (.missingVariables [⟨3, "second"⟩]) ∧
      ∃ line report, (lines hostText.toList)[2]? = some line ∧
        standardRenderer.render hostVariables (String.ofList line) =
          .error (.missingVariables report) ∧
        ⟨1, "second"⟩ ∈ report := by
  have hvalues : hostVariables.HasSingleLineValues := by decide +kernel
  have hrenders : standardRenderer.render hostVariables addressText =
      .ok "at http://db1\n# \x7b\x7bnone\x7d\x7d" := by
    decide +kernel
  have hfails : standardRenderer.render hostVariables hostText =
      .error (.missingVariables [⟨3, "second"⟩]) := by
    decide +kernel
  obtain ⟨hresult, -, -⟩ := render_of_lines (r := standardRenderer) hvalues addressText
  obtain ⟨-, -, hreport⟩ := render_of_lines (r := standardRenderer) hvalues hostText
  obtain ⟨-, -, hline⟩ := hreport _ hfails ⟨3, "second"⟩ List.mem_cons_self
  exact ⟨hvalues, (hresult _).mp hrenders, hfails, hline⟩

end Template.Renderer

end LayeredConfig
