import LayeredConfig.Proofs.Outcome
import LayeredConfig.Proofs.Text.Lines
import LayeredConfig.Template.FileName

/-!
# Expanded file names

Expanding a file name puts in safe values only. So every character of the
expanded name stood in the name before or is safe, and no path separator, blank
or control character comes in. Whichever way the expansion ends, no opening is
left, so an expanded name stays as it is under all variables.
-/

namespace LayeredConfig.Template.FileName

open Text

variable {d : Delimiters} {vars : Variables} {c : Char}

/-- One replacement keeps characters of the name and brings in safe ones. -/
theorem mem_of_step {name next : List Char} (h : step d vars name = .next next)
    (hc : c ∈ next) : c ∈ name ∨ isFileNameChar c = true := by
  rw [step] at h
  split at h
  · cases h
  · rename_i before after hopening
    split at h
    · cases h
    · rename_i inner rest hclosing
      split at h
      · cases h
      · rename_i value hvalue
        split at h
        · rename_i hsafe
          cases h
          have hname := append_of_cut? hopening
          have hafter := append_of_cut? hclosing
          rcases List.mem_append.mp hc with hc | hc
          · rcases List.mem_append.mp hc with hc | hc
            · left
              rw [← hname]
              simp [hc]
            · exact .inr (List.all_eq_true.mp hsafe c hc)
          · left
            rw [← hname, ← hafter]
            simp [hc]
        · cases h

/-- All replacements together keep characters of the name and bring in safe ones. -/
theorem mem_of_expandWithin {file : String} {n : Nat} {name expanded : List Char}
    (h : expandWithin d vars file n name = .ok expanded) (hc : c ∈ expanded) :
    c ∈ name ∨ isFileNameChar c = true := by
  induction n generalizing name with
  | zero =>
    rw [expandWithin] at h
    split at h
    · cases h
    · cases h
      exact .inl hc
  | succ n ih =>
    rw [expandWithin] at h
    split at h
    · cases h
      exact .inl hc
    · rename_i next hnext
      rcases ih h with hmem | hsafe
      · exact mem_of_step hnext hmem
      · exact .inr hsafe
    · cases h

/-- A file name is expanded to what its characters are expanded to. -/
theorem expand_eq_ok_iff {file expanded : String} :
    expand d vars file = .ok expanded ↔
      expandWithin d vars file maxPasses file.toList = .ok expanded.toList := by
  rw [expand]
  cases expandWithin d vars file maxPasses file.toList with
  | error e => simp
  | ok name => simp [← String.toList_inj]

/-- Expanding keeps characters of the name and brings in safe ones. -/
theorem mem_of_expand {file expanded : String} (h : expand d vars file = .ok expanded)
    (hc : c ∈ expanded.toList) : c ∈ file.toList ∨ isFileNameChar c = true :=
  mem_of_expandWithin (expand_eq_ok_iff.mp h) hc

/-- A name without a slash stays without one. -/
theorem slash_not_mem_expand {file expanded : String} (h : expand d vars file = .ok expanded)
    (hfile : '/' ∉ file.toList) : '/' ∉ expanded.toList := by
  intro hmem
  rcases mem_of_expand h hmem with hmem | hsafe
  · exact hfile hmem
  · rw [isFileNameChar_slash] at hsafe
    cases hsafe

/-! ## Characters that never come in -/

/-- The character separates the parts of a path, on one system or another. -/
def isPathSeparator (c : Char) : Bool := c == '/' || c == '\\'

/-- The character has the Unicode category `Cc`. -/
def isControl (c : Char) : Bool := c.toNat < 0x20 || (0x7F ≤ c.toNat && c.toNat ≤ 0x9F)

/-- The codes of the safe characters. -/
theorem toNat_of_isFileNameChar (h : isFileNameChar c = true) :
    (0x61 ≤ c.toNat ∧ c.toNat ≤ 0x7A) ∨ (0x41 ≤ c.toNat ∧ c.toNat ≤ 0x5A) ∨
      (0x30 ≤ c.toNat ∧ c.toNat ≤ 0x39) ∨ c.toNat = 0x2D ∨ c.toNat = 0x5F ∨ c.toNat = 0x2E := by
  simp only [isFileNameChar, Bool.or_eq_true, Bool.and_eq_true, decide_eq_true_eq, beq_iff_eq,
    Char.le_def, UInt32.le_iff_toNat_le] at h
  rcases h with ((((h | h) | h) | rfl) | rfl) | rfl
  · exact .inl h
  · exact .inr (.inl h)
  · exact .inr (.inr (.inl h))
  · decide
  · decide
  · decide

/-- A safe character is no path separator, no blank and no control character. -/
theorem isFileNameChar_apart (h : isFileNameChar c = true) :
    ∀ unwanted ∈ [isPathSeparator, isBlank, isControl], unwanted c = false := by
  have hcode := toNat_of_isFileNameChar h
  intro unwanted hmem
  simp only [List.mem_cons, List.not_mem_nil, or_false] at hmem
  rcases hmem with rfl | rfl | rfl
  · have hslash : c ≠ '/' := by
      rintro rfl
      cases h
    have hbackslash : c ≠ '\\' := by
      rintro rfl
      cases h
    simp [isPathSeparator, hslash, hbackslash]
  · simp only [isBlank, Bool.or_eq_false_iff, Bool.and_eq_false_iff, decide_eq_false_iff_not,
      beq_eq_false_iff_ne]
    omega
  · simp only [isControl, Bool.or_eq_false_iff, Bool.and_eq_false_iff, decide_eq_false_iff_not]
    omega

/-! ## No opening is left -/

/-- A name without an opening has nothing to replace. -/
theorem step_of_unopened {name : List Char} (h : cut? d.opening name = none) :
    step d vars name = .done := by
  rw [step, h]

/-- Nothing is left to replace only in a name without an opening. -/
theorem cut?_of_step_done {name : List Char} (h : step d vars name = .done) :
    cut? d.opening name = none := by
  rw [step] at h
  split at h
  · assumption
  · split at h
    · cases h
    · split at h
      · cases h
      · split at h
        · cases h
        · cases h

/-- What comes out of any number of replacements has no opening. -/
theorem cut?_of_expandWithin {file : String} {n : Nat} {name expanded : List Char}
    (h : expandWithin d vars file n name = .ok expanded) : cut? d.opening expanded = none := by
  induction n generalizing name with
  | zero =>
    rw [expandWithin, occurs] at h
    split at h
    · cases h
    · rename_i hunopened
      cases h
      simpa using hunopened
  | succ n ih =>
    rw [expandWithin] at h
    split at h
    · rename_i hdone
      cases h
      exact cut?_of_step_done hdone
    · exact ih h
    · cases h

/-- A name without an opening stays as it is. -/
theorem expand_of_unopened {name : String} (h : cut? d.opening name.toList = none) :
    expand d vars name = .ok name := by
  have hstep : step d vars name.toList = .done := step_of_unopened h
  rw [expand_eq_ok_iff, maxPasses, expandWithin, hstep]

/-- An expanded name does not hold the opening of a token, so it stays as it is under all
variables. Each of its characters stood in the name or is safe, so no path separator, no blank and
no control character comes into a name that has none. -/
theorem expand_of_expand {file expanded : String} (h : expand d vars file = .ok expanded) :
    ¬ d.opening <:+: expanded.toList ∧
      (∀ others, expand d others expanded = .ok expanded) ∧
      (∀ c ∈ expanded.toList, c ∈ file.toList ∨ isFileNameChar c = true) ∧
      ∀ unwanted ∈ [isPathSeparator, isBlank, isControl],
        (∀ c ∈ file.toList, unwanted c = false) → ∀ c ∈ expanded.toList, unwanted c = false := by
  have hunopened : cut? d.opening expanded.toList = none :=
    cut?_of_expandWithin (expand_eq_ok_iff.mp h)
  refine ⟨cut?_eq_none_iff.mp hunopened, fun others => expand_of_unopened hunopened,
    fun c hc => mem_of_expand h hc, ?_⟩
  intro unwanted hunwanted hfile c hc
  rcases mem_of_expand h hc with hmem | hsafe
  · exact hfile c hmem
  · exact isFileNameChar_apart hsafe unwanted hunwanted

/-- Tokens that begin alike: two letters open one, and the first of them closes it. -/
def nestedDelimiters : Delimiters := ⟨['a', 'a'], ['a'], by decide, by decide⟩

/-- The value forms a new token with the text around it, which is expanded as well. What comes out
stays as it is, and no slash comes in. -/
theorem nested_token_is_expanded :
    expand nestedDelimiters (.ofList [("x", .string "v-a"), ("-", .string "w")]) "aaxaa-a" =
        .ok "v-w" ∧
      (∀ others, expand nestedDelimiters others "v-w" = .ok "v-w") ∧
      ∀ c ∈ "v-w".toList, isPathSeparator c = false := by
  have hexpand : expand nestedDelimiters
      (.ofList [("x", .string "v-a"), ("-", .string "w")]) "aaxaa-a" = .ok "v-w" :=
    eq_ok_of_toOption (by decide +kernel)
  obtain ⟨-, hstays, -, hunwanted⟩ := expand_of_expand hexpand
  exact ⟨hexpand, hstays,
    hunwanted isPathSeparator List.mem_cons_self (by simp [isPathSeparator])⟩

end LayeredConfig.Template.FileName
