import LayeredConfig.Proofs.Template.Convergence
import LayeredConfig.Proofs.Template.Filling

/-!
# What a strict rendering reports

A strict renderer stops at the first pass that meets a placeholder without a value, and
reports all such placeholders of that pass. A lenient one goes on, and later passes may
bring up names that no report had: the values that are inserted have placeholders of
their own. So the report has every name that the lenient result is left with exactly
when these names already stand in the text as it is when the strict rendering stops.
-/

namespace LayeredConfig.Template.Renderer

open Text

variable {r : Renderer} {vars : Variables} {text out : List Char} {missing : List Missing} {n : ℕ}

/-- The placeholders of a text that have no value, in the order of the text. -/
def withoutValue (r : Renderer) (vars : Variables) (text : List Char) : List Missing :=
  r.missingFrom vars 1 (lines text)

/-! ## The names of placeholders without a value -/

/-- The names that a line misses are those of its placeholders without a value. -/
theorem mem_missingNames_iff {line : List Char} {name : String} :
    name ∈ r.missingNames vars line ↔ ∃ inner, .placeholder inner ∈ r.lineSegments line ∧
      placeholderText? vars inner = none ∧ placeholderName inner = name := by
  rw [missingNames, List.mem_filterMap]
  constructor
  · rintro ⟨seg, hseg, hname⟩
    cases seg with
    | literal text => cases hname
    | placeholder inner =>
      cases hvalue : placeholderText? vars inner with
      | some value => simp [missingName?, hvalue] at hname
      | none => exact ⟨inner, hseg, hvalue, by simpa [missingName?, hvalue] using hname⟩
  · rintro ⟨inner, hinner, hvalue, rfl⟩
    exact ⟨.placeholder inner, hinner, by simp [missingName?, hvalue]⟩

/-- The names that lines miss are those that one of them misses. -/
theorem mem_map_name_missingFrom_iff {texts : List (List Char)} {number : Nat} {name : String} :
    name ∈ (r.missingFrom vars number texts).map Missing.name ↔
      ∃ line ∈ texts, name ∈ r.missingNames vars line := by
  induction texts generalizing number with
  | nil => simp [missingFrom]
  | cons line rest ih =>
    rw [missingFrom, List.map_append, List.mem_append, ih, List.map_map, List.exists_mem_cons_iff]
    simp

/-- The names without a value in a text are those of its placeholders that have none. -/
theorem mem_names_withoutValue_iff {name : String} :
    name ∈ (r.withoutValue vars text).map Missing.name ↔ ∃ inner, r.HasPlaceholder text inner ∧
      placeholderText? vars inner = none ∧ placeholderName inner = name := by
  simp only [withoutValue, mem_map_name_missingFrom_iff, mem_missingNames_iff, HasPlaceholder]
  constructor
  · rintro ⟨line, hline, inner, hinner, hrest⟩
    exact ⟨inner, ⟨line, hline, hinner⟩, hrest⟩
  · rintro ⟨inner, ⟨line, hline, hinner⟩, hrest⟩
    exact ⟨line, hline, inner, hinner, hrest⟩

/-- The mode does not decide which placeholders have no value. -/
theorem missingFrom_requiring (requireAll : Bool) (number : Nat) (texts : List (List Char)) :
    (r.requiring requireAll).missingFrom vars number texts = r.missingFrom vars number texts := by
  induction texts generalizing number with
  | nil => rfl
  | cons line rest ih =>
    rw [missingFrom, missingFrom, ih]
    rfl

/-- A strict renderer objects to every placeholder without a value. -/
theorem missingIn_strict (text : List Char) :
    (r.requiring true).missingIn vars text = r.withoutValue vars text := by
  rw [missingIn, withoutValue, missingFrom_requiring]
  rfl

/-- A strict pass reports the placeholders without a value, if there are any. -/
theorem pass_strict_eq_missing_iff :
    (r.requiring true).pass vars text = .error (.missingVariables missing) ↔
      missing = r.withoutValue vars text ∧ missing ≠ [] := by
  rw [pass, missingIn_strict]
  cases hmissing : r.withoutValue vars text with
  | nil => simp
  | cons m more =>
    constructor
    · intro h
      cases h
      exact ⟨rfl, List.cons_ne_nil m more⟩
    · rintro ⟨rfl, -⟩
      rfl

/-- A strict pass over a text that has values for all placeholders fills it. -/
theorem pass_strict_of_withoutValue_eq_nil (h : r.withoutValue vars text = []) :
    (r.requiring true).pass vars text =
      .ok ⟨r.filled vars text, (lines text).any (r.changesLine vars)⟩ :=
  pass_eq_ok_iff.mpr ⟨by rw [missingIn_strict, h], rfl⟩

/-! ## Where a strict rendering stops -/

/-- The text meets its first placeholder without a value after a number of passes. -/
structure FirstMissing (r : Renderer) (vars : Variables) (text : List Char) (n : ℕ) : Prop where
  /-- There is none before. -/
  before : ∀ i < n, r.withoutValue vars (r.filledTimes vars i text) = []
  /-- There is one then. -/
  here : r.withoutValue vars (r.filledTimes vars n text) ≠ []

/-- A number of passes that is one more for a text is that many for the text after a pass. -/
theorem firstMissing_succ_iff :
    r.FirstMissing vars text (n + 1) ↔
      r.withoutValue vars text = [] ∧ r.FirstMissing vars (r.filled vars text) n := by
  constructor
  · rintro ⟨hbefore, hhere⟩
    exact ⟨hbefore 0 (by omega), fun i hi => hbefore (i + 1) (by omega), hhere⟩
  · rintro ⟨hfirst, hbefore, hhere⟩
    refine ⟨fun i hi => ?_, hhere⟩
    cases i with
    | zero => exact hfirst
    | succ i => exact hbefore i (by omega)

/-- Strict passes report what is missing in the text when the first placeholder without a value
comes up, if it does so early enough. -/
theorem passes_strict_eq_missing_iff {k : ℕ} :
    (r.requiring true).passes vars k text = .error (.missingVariables missing) ↔
      ∃ n < k, r.FirstMissing vars text n ∧
        missing = r.withoutValue vars (r.filledTimes vars n text) := by
  induction k generalizing text with
  | zero => simp [passes]
  | succ k ih =>
    rw [passes]
    by_cases hnone : r.withoutValue vars text = []
    · rw [pass_strict_of_withoutValue_eq_nil hnone]
      dsimp only
      constructor
      · intro h
        split at h
        · obtain ⟨n, hn, hfirst, hmissing⟩ := ih.mp h
          exact ⟨n + 1, by omega, firstMissing_succ_iff.mpr ⟨hnone, hfirst⟩, hmissing⟩
        · cases h
      · rintro ⟨n, hn, hfirst, hmissing⟩
        cases n with
        | zero => exact absurd hnone hfirst.here
        | succ n =>
          have hnext := (firstMissing_succ_iff.mp hfirst).2
          have hchanged : (lines text).any (r.changesLine vars) = true := by
            -- a text that does not change misses nothing later either
            by_contra hsame
            have hunchanged : r.Unchanged vars text :=
              any_changesLine_eq_false_iff.mp (by simpa using hsame)
            exact hfirst.here (by rw [hunchanged.filledTimes_eq, hnone])
          rw [if_pos hchanged]
          exact ih.mpr ⟨n, by omega, hnext, hmissing⟩
    · have hpass := pass_strict_eq_missing_iff.mpr ⟨rfl, hnone⟩
      rw [hpass]
      constructor
      · intro h
        cases h
        exact ⟨0, by omega, ⟨fun i hi => absurd hi (by omega), hnone⟩, rfl⟩
      · rintro ⟨n, hn, hfirst, rfl⟩
        cases n with
        | zero => rfl
        | succ n => exact absurd (hfirst.before 0 (by omega)) hnone

/-! ## What is left after a lenient rendering -/

/-- One pass fails as it does on characters. -/
theorem substituteOnce_eq_error_iff {text : String} {e : Error} :
    r.substituteOnce vars text = .error e ↔ r.pass vars text.toList = .error e := by
  rw [substituteOnce]
  cases r.pass vars text.toList with
  | error e' => simp
  | ok result => simp

/-- A strict rendering fails with a report when its passes do. -/
theorem render_strict_eq_missing_iff {text : String} :
    (r.requiring true).render vars text = .error (.missingVariables missing) ↔
      ∃ n < maxPasses, r.FirstMissing vars text.toList n ∧
        missing = r.withoutValue vars (r.filledTimes vars n text.toList) := by
  rw [render_eq_map, except_map_eq_error_iff, passes_strict_eq_missing_iff]

/-- A name that comes up, comes up after one of the passes. -/
theorem exists_firstUp {name : String} {m : ℕ} (hle : n ≤ m)
    (hmissing : name ∉ (r.withoutValue vars (r.filledTimes vars n text)).map Missing.name)
    (hup : name ∈ (r.withoutValue vars (r.filledTimes vars m text)).map Missing.name) :
    ∃ j, n ≤ j ∧ name ∉ (r.withoutValue vars (r.filledTimes vars j text)).map Missing.name ∧
      name ∈ (r.withoutValue vars (r.filledTimes vars (j + 1) text)).map Missing.name := by
  induction m, hle using Nat.le_induction with
  | base => exact absurd hup hmissing
  | succ j hj ih =>
    by_cases hbefore : name ∈ (r.withoutValue vars (r.filledTimes vars j text)).map Missing.name
    · exact ih hbefore
    · exact ⟨j, hj, hbefore, hup⟩

/-- A strict rendering that finds values missing stops at the first pass that meets a placeholder
without a value, and reports all of that pass. What the lenient rendering is left with is named in
the report, or comes up in a later pass. The report names all of it exactly when the text at which
the strict rendering stops already names all that the lenient one is left with. -/
theorem names_left_of_render {text out : String}
    (hstrict : (r.requiring true).render vars text = .error (.missingVariables missing))
    (hlenient : (r.requiring false).render vars text = .ok out) :
    ∃ n < maxPasses, r.FirstMissing vars text.toList n ∧
      missing = r.withoutValue vars (r.filledTimes vars n text.toList) ∧
      (∀ left, (r.requiring true).substituteOnce vars out = .error (.missingVariables left) →
        ∀ m ∈ left, m.name ∈ missing.map Missing.name ∨ ∃ j, n ≤ j ∧
          m.name ∉ (r.withoutValue vars (r.filledTimes vars j text.toList)).map Missing.name ∧
          m.name ∈
            (r.withoutValue vars (r.filledTimes vars (j + 1) text.toList)).map Missing.name) ∧
      ((∀ left, (r.requiring true).substituteOnce vars out = .error (.missingVariables left) →
          ∀ m ∈ left, m.name ∈ missing.map Missing.name) ↔
        ∀ inner, r.HasPlaceholder out.toList inner →
          ∃ other, r.HasPlaceholder (r.filledTimes vars n text.toList) other ∧
            placeholderName other = placeholderName inner) := by
  obtain ⟨n, hn, hfirst, hmissing⟩ := render_strict_eq_missing_iff.mp hstrict
  obtain ⟨last, -, hunchanged, hlast, -⟩ := filledTimes_of_render hlenient
  refine ⟨n, hn, hfirst, hmissing, ?_, ?_, ?_⟩
  · intro left hleft m hm
    obtain ⟨rfl, -⟩ := pass_strict_eq_missing_iff.mp (substituteOnce_eq_error_iff.mp hleft)
    by_cases hreported : m.name ∈ missing.map Missing.name
    · exact .inl hreported
    · have hup : m.name ∈
          (r.withoutValue vars (r.filledTimes vars (max n last) text.toList)).map Missing.name := by
        rw [← filledTimes_requiring false, hlast _ (by omega)]
        exact List.mem_map_of_mem hm
      rw [hmissing] at hreported
      exact .inr (exists_firstUp (by omega) hreported hup)
  · intro hall inner hinner
    have hnone := hunchanged inner hinner
    have hname := mem_names_withoutValue_iff.mpr ⟨inner, hinner, hnone, rfl⟩
    obtain ⟨m, hm, hmname⟩ := List.mem_map.mp hname
    have hreport : (r.requiring true).substituteOnce vars out =
        .error (.missingVariables (r.withoutValue vars out.toList)) :=
      substituteOnce_eq_error_iff.mpr
        (pass_strict_eq_missing_iff.mpr ⟨rfl, List.ne_nil_of_mem hm⟩)
    have hreported := hall _ hreport m hm
    rw [hmname, hmissing] at hreported
    obtain ⟨other, hother, -, hsame⟩ := mem_names_withoutValue_iff.mp hreported
    exact ⟨other, hother, hsame⟩
  · intro hnames left hleft m hm
    obtain ⟨rfl, -⟩ := pass_strict_eq_missing_iff.mp (substituteOnce_eq_error_iff.mp hleft)
    obtain ⟨inner, hinner, hnone, hname⟩ :=
      mem_names_withoutValue_iff.mp (List.mem_map_of_mem hm)
    obtain ⟨other, hother, hsame⟩ := hnames inner hinner
    rw [hmissing, ← hname]
    exact mem_names_withoutValue_iff.mpr
      ⟨other, hother, by rw [placeholderText?, hsame, ← placeholderText?, hnone], hsame⟩

/-- A variable whose value asks for two others, and one whose value asks for a third. -/
def errandVariables : Variables :=
  .ofList [ ("pair", .string "\x7b\x7bleft\x7d\x7d \x7b\x7bright\x7d\x7d"),
    ("one", .string "\x7b\x7bhidden\x7d\x7d") ]

/-- Both names that the value of the pair asks for are reported, with their lines, after the one
pass that inserts it. The lenient rendering is left with the same names. -/
theorem pair_is_reported :
    ∃ missing left,
      standardRenderer.FirstMissing errandVariables "\x7b\x7bpair\x7d\x7d\nend".toList 1 ∧
      missing = standardRenderer.withoutValue errandVariables
        (standardRenderer.filledTimes errandVariables 1 "\x7b\x7bpair\x7d\x7d\nend".toList) ∧
      missing = [⟨1, "left"⟩, ⟨1, "right"⟩] ∧
      (standardRenderer.requiring true).substituteOnce errandVariables
        "\x7b\x7bleft\x7d\x7d \x7b\x7bright\x7d\x7d\nend" = .error (.missingVariables left) ∧
      left.map Missing.name = ["left", "right"] ∧
      ∀ m ∈ left, m.name ∈ missing.map Missing.name := by
  have hstrict : (standardRenderer.requiring true).render errandVariables
      "\x7b\x7bpair\x7d\x7d\nend" = .error (.missingVariables [⟨1, "left"⟩, ⟨1, "right"⟩]) := by
    decide +kernel
  have hlenient : (standardRenderer.requiring false).render errandVariables
      "\x7b\x7bpair\x7d\x7d\nend" = .ok "\x7b\x7bleft\x7d\x7d \x7b\x7bright\x7d\x7d\nend" := by
    decide +kernel
  have hleft : (standardRenderer.requiring true).substituteOnce errandVariables
      "\x7b\x7bleft\x7d\x7d \x7b\x7bright\x7d\x7d\nend" =
        .error (.missingVariables [⟨1, "left"⟩, ⟨1, "right"⟩]) := by decide +kernel
  have hbefore : standardRenderer.withoutValue errandVariables
      (standardRenderer.filledTimes errandVariables 0 "\x7b\x7bpair\x7d\x7d\nend".toList) = [] := by
    decide +kernel
  have honce : standardRenderer.filledTimes errandVariables 1 "\x7b\x7bpair\x7d\x7d\nend".toList =
      "\x7b\x7bleft\x7d\x7d \x7b\x7bright\x7d\x7d\nend".toList := by decide +kernel
  obtain ⟨n, -, hfirst, hmissing, -, hnames⟩ := names_left_of_render hstrict hlenient
  -- nothing is missing in the text itself, and the text after one pass is the lenient result
  obtain rfl : n = 1 := by
    rcases n with _ | _ | n
    · exact absurd hbefore hfirst.here
    · rfl
    · have hone := hfirst.before 1 (by omega)
      rw [honce] at hone
      exact absurd hone (by decide +kernel)
  have hall := hnames.mpr fun inner hinner => ⟨inner, honce ▸ hinner, rfl⟩
  exact ⟨_, _, hfirst, hmissing, rfl, hleft, rfl, hall _ hleft⟩

/-- A name that only a value asks for is not reported beside one that the text asks for, though the
lenient rendering is left with both. -/
theorem hidden_is_not_reported :
    (standardRenderer.requiring true).render errandVariables
        "\x7b\x7bone\x7d\x7d \x7b\x7bgone\x7d\x7d" = .error (.missingVariables [⟨1, "gone"⟩]) ∧
      (standardRenderer.requiring false).render errandVariables
        "\x7b\x7bone\x7d\x7d \x7b\x7bgone\x7d\x7d" =
          .ok "\x7b\x7bhidden\x7d\x7d \x7b\x7bgone\x7d\x7d" ∧
      (standardRenderer.requiring true).substituteOnce errandVariables
        "\x7b\x7bhidden\x7d\x7d \x7b\x7bgone\x7d\x7d" =
          .error (.missingVariables [⟨1, "hidden"⟩, ⟨1, "gone"⟩]) ∧
      "hidden" ∉ [(⟨1, "gone"⟩ : Missing)].map Missing.name := by
  decide +kernel

end LayeredConfig.Template.Renderer
