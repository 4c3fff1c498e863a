import LayeredConfig.Proofs.Template.Leniency
import Mathlib.Logic.Function.Iterate

/-!
# Filling a text again and again

Every pass over a text that the renderer does not object to fills its placeholders, except
for those without a value. So the text before a pass is the one at the start, filled as
often as passes were made, and rendering has a result exactly when one of the first of
these texts is not changed by another pass and the renderer objects to none up to it.
-/

namespace LayeredConfig.Template.Renderer

open Text

variable {r : Renderer} {vars : Variables} {text out : List Char} {n : ℕ}

/-- A text with its placeholders filled, except for those without a value. -/
def filled (r : Renderer) (vars : Variables) (text : List Char) : List Char :=
  unlines ((lines text).map (r.fillLine vars))

/-- A text that is filled a number of times. -/
def filledTimes (r : Renderer) (vars : Variables) (n : ℕ) (text : List Char) : List Char :=
  (r.filled vars)^[n] text

/-- No pass changes the text: none of its placeholders has a value. -/
def Unchanged (r : Renderer) (vars : Variables) (text : List Char) : Prop :=
  ∀ inner, r.HasPlaceholder text inner → placeholderText? vars inner = none

/-- Nothing is filled. -/
@[simp] theorem filledTimes_zero (text : List Char) : r.filledTimes vars 0 text = text := rfl

/-- The text is filled once more after it is filled the other times. -/
theorem filledTimes_succ (n : ℕ) (text : List Char) :
    r.filledTimes vars (n + 1) text = r.filled vars (r.filledTimes vars n text) :=
  Function.iterate_succ_apply' _ _ _

/-- The mode does not decide what is filled. -/
theorem filledTimes_requiring (requireAll : Bool) (n : ℕ) (text : List Char) :
    (r.requiring requireAll).filledTimes vars n text = r.filledTimes vars n text := rfl

/-- Filling a text turns each of its lines into the lines of what that line is filled to. -/
theorem lines_filled (text : List Char) :
    lines (r.filled vars text) = (lines text).flatMap fun line => lines (r.fillLine vars line) := by
  have hne : (lines text).map (r.fillLine vars) ≠ [] :=
    fun h => splitAtChar_ne_nil _ _ (List.map_eq_nil_iff.mp h)
  rw [filled, lines, unlines, splitAtChar_joinWithChar_eq_flatMap hne, List.flatMap_map]
  rfl

/-- A pass replaces nothing in a text exactly when none of its placeholders has a value. -/
theorem any_changesLine_eq_false_iff :
    (lines text).any (r.changesLine vars) = false ↔ r.Unchanged vars text := by
  rw [← Bool.not_eq_true, any_changesLine_iff, Unchanged]
  simp only [not_exists, not_and, Option.not_isSome_iff_eq_none]

/-- A text that no pass changes stays the same, however often it is filled. -/
theorem Unchanged.filledTimes_eq (h : r.Unchanged vars text) (n : ℕ) :
    r.filledTimes vars n text = text :=
  Function.iterate_fixed (unlines_fillLine_of_unchanged (any_changesLine_eq_false_iff.mpr h)) n

/-- Once no pass changes the text, it stays the same. -/
theorem Unchanged.filledTimes_of_le {m : ℕ} (h : r.Unchanged vars (r.filledTimes vars n text))
    (hle : n ≤ m) : r.filledTimes vars m text = r.filledTimes vars n text := by
  obtain ⟨k, rfl⟩ := Nat.exists_eq_add_of_le' hle
  have hstays := h.filledTimes_eq k
  rwa [filledTimes, filledTimes, ← Function.iterate_add_apply, ← filledTimes, ← filledTimes]
    at hstays

/-- A pass that the renderer does not object to fills the text. -/
theorem pass_of_missingIn_eq_nil (h : r.missingIn vars text = []) :
    r.pass vars text = .ok ⟨r.filled vars text, (lines text).any (r.changesLine vars)⟩ :=
  pass_eq_ok_iff.mpr ⟨h, rfl⟩

/-- Passes come to an end when a text comes up early enough that is not changed any more, and the
renderer objects to none up to it. -/
theorem passes_eq_ok_iff {k : ℕ} :
    r.passes vars k text = .ok out ↔
      ∃ m < k, out = r.filledTimes vars m text ∧ r.Unchanged vars out ∧
        ∀ i ≤ m, r.missingIn vars (r.filledTimes vars i text) = [] := by
  induction k generalizing text with
  | zero => simp [passes]
  | succ k ih =>
    rw [passes]
    cases hmissing : r.missingIn vars text with
    | cons first more =>
      have hpass : r.pass vars text = .error (.missingVariables (first :: more)) := by
        rw [pass, hmissing]
      rw [hpass]
      constructor
      · intro h
        cases h
      · rintro ⟨m, -, -, -, hall⟩
        have hfirst := hall 0 (by omega)
        rw [filledTimes_zero, hmissing] at hfirst
        cases hfirst
    | nil =>
      rw [pass_of_missingIn_eq_nil hmissing]
      dsimp only
      split
      · rename_i hchanged
        rw [ih]
        constructor
        · rintro ⟨m, hm, hout, hunchanged, hall⟩
          refine ⟨m + 1, by omega, hout, hunchanged, fun i hi => ?_⟩
          cases i with
          | zero => exact hmissing
          | succ i => exact hall i (by omega)
        · rintro ⟨m, hm, hout, hunchanged, hall⟩
          cases m with
          | zero =>
            rw [hout, filledTimes_zero] at hunchanged
            rw [any_changesLine_eq_false_iff.mpr hunchanged] at hchanged
            cases hchanged
          | succ m =>
            exact ⟨m, by omega, hout, hunchanged, fun i hi => hall (i + 1) (by omega)⟩
      · rename_i hchanged
        have hunchanged : r.Unchanged vars text :=
          any_changesLine_eq_false_iff.mp (by simpa using hchanged)
        have hfilled : r.filled vars text = text := hunchanged.filledTimes_eq 1
        constructor
        · intro h
          cases h
          refine ⟨0, by omega, hfilled, by rwa [hfilled], fun i hi => ?_⟩
          obtain rfl : i = 0 := by omega
          exact hmissing
        · rintro ⟨m, -, hout, -, -⟩
          rw [hout, hunchanged.filledTimes_eq m, hfilled]

/-- The renderer objects to no text that comes up, if it objects to none until no pass changes the
text any more. -/
theorem Unchanged.missingIn_filledTimes {m : ℕ} (h : r.Unchanged vars (r.filledTimes vars m text))
    (hall : ∀ i ≤ m, r.missingIn vars (r.filledTimes vars i text) = []) (i : ℕ) :
    r.missingIn vars (r.filledTimes vars i text) = [] := by
  rcases Nat.le_total i m with hle | hle
  · exact hall i hle
  · rw [h.filledTimes_of_le hle]
    exact hall m (Nat.le_refl m)

/-- A rendering that has a result has it after fewer passes than are made at most, and the renderer
objects to no text on the way or later. -/
theorem filledTimes_of_render {text out : String} (h : r.render vars text = .ok out) :
    ∃ m < maxPasses, r.Unchanged vars out.toList ∧
      (∀ i, m ≤ i → r.filledTimes vars i text.toList = out.toList) ∧
      ∀ i, r.missingIn vars (r.filledTimes vars i text.toList) = [] := by
  rw [render_eq_map, except_map_eq_ok_iff] at h
  obtain ⟨chars, hpasses, rfl⟩ := h
  rw [String.toList_ofList]
  obtain ⟨m, hm, rfl, hunchanged, hall⟩ := passes_eq_ok_iff.mp hpasses
  exact ⟨m, hm, hunchanged, fun i hi => hunchanged.filledTimes_of_le hi,
    hunchanged.missingIn_filledTimes hall⟩

end LayeredConfig.Template.Renderer
