import LayeredConfig.Proofs.Template.CleanPass
import Mathlib.Data.ENat.Lattice
import Mathlib.Order.CompletePartialOrder

/-!
# References between variables

A clean text refers to the variables that its placeholders name, and their
values refer to others. How far references lead is the length of the longest
chain of them, which a cycle makes infinite. The full expansion of a text puts
the full expansion of a value in the place of every placeholder.
-/

namespace LayeredConfig.Template

/-- The text refers to the variable: one of the placeholders it is written by names it. -/
def Refers (d : Delimiters) (text : List Char) (name : String) : Prop :=
  ∃ segs inner, AllClean d segs ∧ written d segs = text ∧
    .placeholder inner ∈ segs ∧ placeholderName inner = name

/-- References lead from the text to the variable, possibly through the values of others. -/
inductive Reaches (d : Delimiters) (vars : Variables) : List Char → String → Prop
  /-- A variable that the text refers to. -/
  | direct {text : List Char} {name : String} : Refers d text name → Reaches d vars text name
  /-- A variable that is reached from a value that the text refers to. -/
  | through {text : List Char} {via value name : String} : Refers d text via →
      vars.lookup? via = some value → Reaches d vars value.toList name → Reaches d vars text name

/-- References follow one another from the text on, as many as given. -/
inductive ReferenceChain (d : Delimiters) (vars : Variables) : List Char → ℕ → Prop
  /-- No reference is followed. -/
  | stop (text : List Char) : ReferenceChain d vars text 0
  /-- A reference is followed, and more from its value on. -/
  | step {text : List Char} {name value : String} {n : ℕ} : Refers d text name →
      vars.lookup? name = some value → ReferenceChain d vars value.toList n →
      ReferenceChain d vars text (n + 1)

/-- The length of the longest chain of references from the text on. -/
noncomputable def referenceDepth (d : Delimiters) (vars : Variables) (text : List Char) : ℕ∞ :=
  ⨆ n : {n : ℕ // ReferenceChain d vars text n}, (n.val : ℕ∞)

/-- Segments with every placeholder replaced by the full expansion of its value. -/
inductive ExpandsTo (d : Delimiters) (vars : Variables) : List Segment → List Char → Prop
  /-- Nothing is left to expand. -/
  | nil : ExpandsTo d vars [] []
  /-- A literal stands for itself. -/
  | literal (text : List Char) {segs : List Segment} {out : List Char} :
      ExpandsTo d vars segs out → ExpandsTo d vars (.literal text :: segs) (text ++ out)
  /-- A placeholder stands for the expansion of the value it names. -/
  | placeholder {inner : List Char} {value : String} {parts segs : List Segment}
      {expanded out : List Char} : vars.lookup? (placeholderName inner) = some value →
      AllClean d parts → written d parts = value.toList → ExpandsTo d vars parts expanded →
      ExpandsTo d vars segs out →
      ExpandsTo d vars (.placeholder inner :: segs) (expanded ++ out)

/-- The text with every placeholder replaced by the full expansion of its value. -/
def IsFullExpansion (d : Delimiters) (vars : Variables) (text out : List Char) : Prop :=
  ∃ segs, AllClean d segs ∧ written d segs = text ∧ ExpandsTo d vars segs out

variable {d : Delimiters} {vars : Variables}

/-! ## Chains and depth -/

/-- Any segments that write the text tell what it refers to. -/
theorem refers_written_iff {segs : List Segment} (hc : AllClean d segs) (name : String) :
    Refers d (written d segs) name ↔ ∃ inner, .placeholder inner ∈ segs ∧
      placeholderName inner = name := by
  constructor
  · rintro ⟨others, inner, ho, hw, hi, hn⟩
    have hread := flatMap_eq_of_written_eq ignoresDivision_inner ho hc hw
    have hin := mem_flatMap_inner.mpr hi
    rw [hread] at hin
    exact ⟨inner, mem_flatMap_inner.mp hin, hn⟩
  · rintro ⟨inner, hi, hn⟩
    exact ⟨segs, inner, hc, rfl, hi, hn⟩

/-- A longer chain begins with a shorter one. -/
theorem ReferenceChain.of_le {text : List Char} {n m : ℕ} (h : ReferenceChain d vars text n)
    (hm : m ≤ n) : ReferenceChain d vars text m := by
  induction h generalizing m with
  | stop text =>
    obtain rfl := Nat.le_zero.mp hm
    exact .stop text
  | @step text name value n hr hv hc ih =>
    cases m with
    | zero => exact .stop text
    | succ m => exact .step hr hv (ih (Nat.le_of_succ_le_succ hm))

/-- The depth is bounded when every chain is. -/
theorem referenceDepth_le_iff {text : List Char} {bound : ℕ} :
    referenceDepth d vars text ≤ bound ↔ ∀ n, ReferenceChain d vars text n → n ≤ bound := by
  rw [referenceDepth, iSup_le_iff]
  constructor
  · intro h n hn
    exact Nat.cast_le.mp (h ⟨n, hn⟩)
  · rintro h ⟨n, hn⟩
    exact Nat.cast_le.mpr (h n hn)

/-- The depth is below a number when no chain is that long. -/
theorem referenceDepth_le_iff_not_chain {text : List Char} {bound : ℕ} :
    referenceDepth d vars text ≤ bound ↔ ¬ ReferenceChain d vars text (bound + 1) := by
  rw [referenceDepth_le_iff]
  constructor
  · intro h hc
    have hle := h _ hc
    omega
  · intro h n hn
    by_contra hlt
    exact h (hn.of_le (by omega))

/-- A text without placeholders has depth zero. -/
theorem referenceDepth_eq_zero {text : List Char} (h : ∀ name, ¬ Refers d text name) :
    referenceDepth d vars text = 0 := by
  refine nonpos_iff_eq_zero.mp ?_
  rw [← Nat.cast_zero, referenceDepth_le_iff_not_chain]
  rintro ⟨⟩
  exact h _ ‹_›

/-- What is reached adds to the chains: a chain behind it makes a longer one. -/
theorem ReferenceChain.of_reaches {text : List Char} {name value : String} {n : ℕ}
    (hr : Reaches d vars text name) (hv : vars.lookup? name = some value)
    (hc : ReferenceChain d vars value.toList n) : ReferenceChain d vars text (n + 1) := by
  induction hr with
  | direct href => exact .step href hv hc
  | through href hvia _ ih => exact .step href hvia ((ih hv).of_le (Nat.le_succ n))

/-- A variable that is reached and reaches itself makes the depth infinite. -/
theorem referenceDepth_eq_top {text : List Char} {name value : String}
    (hr : Reaches d vars text name) (hv : vars.lookup? name = some value)
    (hcycle : Reaches d vars value.toList name) : referenceDepth d vars text = ⊤ := by
  have hround : ∀ n, ReferenceChain d vars value.toList n := by
    intro n
    induction n with
    | zero => exact .stop _
    | succ n ih => exact .of_reaches hcycle hv ih
  refine ENat.eq_top_iff_forall_ge.mpr fun n => ?_
  exact le_iSup_of_le ⟨n, (ReferenceChain.of_reaches hr hv (hround n)).of_le (Nat.le_succ n)⟩ le_rfl

end LayeredConfig.Template
