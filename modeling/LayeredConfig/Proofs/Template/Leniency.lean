import LayeredConfig.Proofs.Template.RenderedValues

/-!
# Strict and lenient rendering

The mode of a renderer decides only whether it objects to placeholders without a
value. Passes of a strict and of a lenient renderer fill the same placeholders,
so the two renderings go hand in hand until the strict one objects. Whatever the
strict renderer gives the lenient one gives, and what still changes after the
last pass for one does so for the other. A lenient renderer fails for no other
reason.
-/

namespace LayeredConfig.Template

/-- The failure reports placeholders without a value. -/
def Error.IsMissing (e : Error) : Prop := e.missing ≠ []

namespace Renderer

/-- The renderer in a mode. -/
def requiring (r : Renderer) (requireAll : Bool) : Renderer := { r with requireAll := requireAll }

variable {r : Renderer} {vars : Variables}

/-- A markup that gives a renderer gives it in either mode. -/
theorem ofMarkup?_requiring {markup : Markup} {requireAll : Bool}
    (h : Renderer.ofMarkup? markup requireAll = .ok r) (other : Bool) :
    Renderer.ofMarkup? markup other = .ok (r.requiring other) := by
  rw [ofMarkup?] at h ⊢
  split at h
  · cases h
  · cases h
    rfl

/-! ## One pass in both modes -/

/-- A pass of a lenient renderer fills every line. -/
theorem pass_lenient (r : Renderer) (vars : Variables) (text : List Char) :
    (r.requiring false).pass vars text =
      .ok ⟨Text.unlines ((Text.lines text).map (r.fillLine vars)),
        (Text.lines text).any (r.changesLine vars)⟩ :=
  pass_eq_ok_iff.mpr ⟨missingIn_lenient rfl vars text, rfl⟩

/-- A pass of a strict renderer is that of the lenient one, unless a value is missing. -/
theorem sameUnless_pass (r : Renderer) (vars : Variables) (text : List Char) :
    SameUnless Error.IsMissing ((r.requiring true).pass vars text)
      ((r.requiring false).pass vars text) := by
  rw [pass_lenient, pass]
  cases (r.requiring true).missingIn vars text with
  | nil => exact .inl rfl
  | cons m more => exact .inr ⟨_, rfl, List.cons_ne_nil m more⟩

/-! ## Rendering in both modes -/

/-- A text is rendered to the same in both modes, unless a value is missing. -/
theorem sameUnless_render (r : Renderer) (vars : Variables) (text : String) :
    SameUnless Error.IsMissing ((r.requiring true).render vars text)
      ((r.requiring false).render vars text) :=
  sameUnless_render_of_pass (sameUnless_pass r vars) text

/-- A value is rendered to the same in both modes, unless a value is missing. -/
theorem sameUnless_renderValue (r : Renderer) (vars : Variables) (value : Value) :
    SameUnless Error.IsMissing ((r.requiring true).renderValue vars value)
      ((r.requiring false).renderValue vars value) :=
  sameUnless_renderValue_of_pass (sameUnless_pass r vars) value

/-- Variables are rendered to the same in both modes, unless a value is missing. -/
theorem sameUnless_renderVariables (r : Renderer) (vars : Variables) :
    SameUnless Error.IsMissing ((r.requiring true).renderVariables vars)
      ((r.requiring false).renderVariables vars) := by
  refine SortedMap.sameUnless_traverse fun name value => ?_
  rcases sameUnless_renderValue r vars value with hsame | ⟨e, he, hmissing⟩
  · exact .inl (by rw [renderVariable, renderVariable, hsame])
  · exact .inr ⟨.inVariable name e, renderVariable_eq_error_iff.mpr ⟨e, he, rfl⟩, hmissing⟩

/-! ## Failures of a lenient renderer -/

variable {e : Error}

/-- Lenient passes fail only when the last one still changes the text. -/
theorem eq_didNotConverge_of_passes {n : Nat} {text : List Char}
    (h : (r.requiring false).passes vars n text = .error e) : e = .didNotConverge maxPasses := by
  induction n generalizing text with
  | zero =>
    cases h
    rfl
  | succ n ih =>
    rw [passes, pass_lenient] at h
    cases hchanged : (Text.lines text).any (r.changesLine vars) with
    | true =>
      simp only [hchanged, if_true] at h
      exact ih h
    | false => simp [hchanged] at h

/-- A lenient rendering of a text fails only because it does not come to an end. -/
theorem eq_didNotConverge_of_render {text : String}
    (h : (r.requiring false).render vars text = .error e) : e = .didNotConverge maxPasses := by
  rw [render_eq_map, except_map_eq_error_iff] at h
  exact eq_didNotConverge_of_passes h

/-- A lenient rendering of a value fails only because that of a text in it does. -/
theorem eq_didNotConverge_of_renderValue {value : Value}
    (h : (r.requiring false).renderValue vars value = .error e) :
    e = .didNotConverge maxPasses := by
  induction value with
  | null => cases h
  | bool b => cases h
  | number n => cases h
  | string text =>
    rw [renderValue_string, except_map_eq_error_iff] at h
    exact eq_didNotConverge_of_render h
  | sequence items ih =>
    rw [renderValue_sequence, except_map_eq_error_iff] at h
    obtain ⟨value, hvalue, hfails⟩ := exists_mem_of_mapM_eq_error h
    exact ih value hvalue hfails
  | mapping entries ih =>
    rw [renderValue_mapping, except_map_eq_error_iff] at h
    obtain ⟨entry, hentry, hfails⟩ := exists_mem_of_mapM_eq_error h
    exact ih entry hentry (SortedMap.keyed_eq_error_iff.mp hfails)
  | tagged tag value ih =>
    rw [renderValue_tagged, except_map_eq_error_iff] at h
    exact ih h

/-- A lenient rendering of variables fails only because that of one of them does not come to an
end. -/
theorem exists_of_renderVariables_eq_error
    (h : (r.requiring false).renderVariables vars = .error e) :
    ∃ entry ∈ vars.entries, e = .inVariable entry.1 (.didNotConverge maxPasses) := by
  obtain ⟨entry, hentry, hfails⟩ := SortedMap.exists_mem_of_traverse_eq_error h
  obtain ⟨cause, hcause, rfl⟩ := renderVariable_eq_error_iff.mp hfails
  exact ⟨entry, hentry, by rw [eq_didNotConverge_of_renderValue hcause]⟩

end Renderer

end LayeredConfig.Template
