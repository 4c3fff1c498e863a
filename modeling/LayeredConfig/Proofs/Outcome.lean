/-!
# Outcomes of steps that may fail

A sequence of two steps succeeds exactly when both do. A step for every item of
a list gives one result for each item, or the first failure. Where two steps
have the same outcome unless the first fails in some way, so have two sequences
and two walks through a list. Two outcomes correspond when both fail alike or
both have results, and these are related.
-/

namespace LayeredConfig

variable {ε α β : Type} {x : Except ε α} {f : α → Except ε β} {b : β}

/-- A sequence of two steps succeeds when both do. -/
theorem except_bind_eq_ok_iff : (x >>= f) = .ok b ↔ ∃ a, x = .ok a ∧ f a = .ok b := by
  cases x with
  | error e => simp [bind, Except.bind]
  | ok a => simp [bind, Except.bind]

/-- What is made of an outcome is a result when the outcome is. -/
theorem except_map_eq_ok_iff {g : α → β} : x.map g = .ok b ↔ ∃ a, x = .ok a ∧ g a = b := by
  cases x with
  | error e => simp [Except.map]
  | ok a => simp [Except.map]

/-- What is made of an outcome fails when the outcome does. -/
theorem except_map_eq_error_iff {g : α → β} {e : ε} : x.map g = .error e ↔ x = .error e := by
  cases x with
  | error e' => simp [Except.map]
  | ok a => simp [Except.map]

/-- A sequence that has a result has a result of its first step. -/
theorem exists_of_toOption_bind (h : (x.bind f).toOption = some b) :
    ∃ a, x = .ok a ∧ (f a).toOption = some b := by
  cases x with
  | error e => cases h
  | ok a => exact ⟨a, rfl, h⟩

/-- A step that has a result succeeds. -/
theorem eq_ok_of_toOption {a : α} (h : x.toOption = some a) : x = .ok a := by
  cases x with
  | error e => cases h
  | ok a' => exact congrArg Except.ok (Option.some.inj h)

section Items

variable {xs : List α} {ys : List β} {step : α → Except ε β} {e : ε}

/-- Every result of a walk through a list is the result of an item. -/
theorem exists_mem_of_mapM (h : xs.mapM step = .ok ys) {y : β} (hy : y ∈ ys) :
    ∃ x ∈ xs, step x = .ok y := by
  induction xs generalizing ys with
  | nil =>
    cases h
    cases hy
  | cons x rest ih =>
    rw [List.mapM_cons, except_bind_eq_ok_iff] at h
    obtain ⟨first, hfirst, h⟩ := h
    obtain ⟨others, hothers, h⟩ := except_bind_eq_ok_iff.mp h
    cases h
    rcases List.mem_cons.mp hy with rfl | hy
    · exact ⟨x, List.mem_cons_self, hfirst⟩
    · obtain ⟨x', hmem, hstep⟩ := ih hothers hy
      exact ⟨x', List.mem_cons_of_mem x hmem, hstep⟩

/-- A walk through items that each give themselves gives the list. -/
theorem mapM_eq_self {step : α → Except ε α} (h : ∀ x ∈ xs, step x = .ok x) :
    xs.mapM step = .ok xs := by
  induction xs with
  | nil => rfl
  | cons x rest ih =>
    have hrest := ih fun y hy => h y (List.mem_cons_of_mem x hy)
    rw [List.mapM_cons, h x List.mem_cons_self, hrest]
    rfl

/-- A walk through a list fails with the failure of the first item that fails. -/
theorem mapM_eq_error_iff :
    xs.mapM step = .error e ↔ ∃ before x after, xs = before ++ x :: after ∧
      (∀ y ∈ before, ∃ out, step y = .ok out) ∧ step x = .error e := by
  induction xs with
  | nil =>
    constructor
    · intro h
      cases h
    · rintro ⟨before, x, after, h, -⟩
      simp at h
  | cons x rest ih =>
    rw [List.mapM_cons]
    cases hx : step x with
    | error e' =>
      constructor
      · intro h
        cases h
        exact ⟨[], x, rest, rfl, by simp, hx⟩
      · rintro ⟨before, y, after, h, hbefore, hy⟩
        rcases List.cons_eq_append_iff.mp h with ⟨rfl, hsame⟩ | ⟨others, rfl, -⟩
        · cases hsame
          rw [hx] at hy
          cases hy
          rfl
        · obtain ⟨out, hout⟩ := hbefore x List.mem_cons_self
          rw [hx] at hout
          cases hout
    | ok out =>
      have hrest : (do let first ← (.ok out : Except ε β); let others ← rest.mapM step
                       pure (first :: others)) = .error e ↔ rest.mapM step = .error e :=
        except_map_eq_error_iff (g := fun others => out :: others)
      rw [hrest, ih]
      constructor
      · rintro ⟨before, y, after, rfl, hbefore, hy⟩
        refine ⟨x :: before, y, after, rfl, fun z hz => ?_, hy⟩
        rcases List.mem_cons.mp hz with rfl | hz
        · exact ⟨out, hx⟩
        · exact hbefore z hz
      · rintro ⟨before, y, after, h, hbefore, hy⟩
        rcases List.cons_eq_append_iff.mp h with ⟨rfl, hsame⟩ | ⟨others, rfl, rfl⟩
        · cases hsame
          rw [hx] at hy
          cases hy
        · exact ⟨others, y, after, rfl, fun z hz => hbefore z (List.mem_cons_of_mem x hz), hy⟩

/-- The failure of a walk through a list is the failure of an item. -/
theorem exists_mem_of_mapM_eq_error (h : xs.mapM step = .error e) :
    ∃ x ∈ xs, step x = .error e := by
  obtain ⟨before, x, after, rfl, -, hx⟩ := mapM_eq_error_iff.mp h
  exact ⟨x, by simp, hx⟩

/-- A walk through a list comes to its end when every item has a result. -/
theorem exists_mapM_eq_ok_iff :
    (∃ ys, xs.mapM step = .ok ys) ↔ ∀ x ∈ xs, ∃ y, step x = .ok y := by
  constructor
  · rintro ⟨ys, h⟩
    induction xs generalizing ys with
    | nil => simp
    | cons x rest ih =>
      rw [List.mapM_cons, except_bind_eq_ok_iff] at h
      obtain ⟨y, hy, h⟩ := h
      obtain ⟨others, hothers, -⟩ := except_bind_eq_ok_iff.mp h
      intro z hz
      rcases List.mem_cons.mp hz with rfl | hz
      · exact ⟨y, hy⟩
      · exact ih others hothers z hz
  · intro h
    cases hwalk : xs.mapM step with
    | ok ys => exact ⟨ys, rfl⟩
    | error e =>
      obtain ⟨x, hx, hstep⟩ := exists_mem_of_mapM_eq_error hwalk
      obtain ⟨y, hy⟩ := h x hx
      rw [hstep] at hy
      cases hy

/-- Where each result is known from its item, so is the result of a walk. -/
theorem eq_map_of_mapM {g : α → β} (hg : ∀ x ∈ xs, ∀ y, step x = .ok y → y = g x)
    (h : xs.mapM step = .ok ys) : ys = xs.map g := by
  induction xs generalizing ys with
  | nil =>
    cases h
    rfl
  | cons x rest ih =>
    rw [List.mapM_cons, except_bind_eq_ok_iff] at h
    obtain ⟨y, hy, h⟩ := h
    obtain ⟨others, hothers, h⟩ := except_bind_eq_ok_iff.mp h
    cases h
    rw [List.map_cons, hg x List.mem_cons_self y hy,
      ih (fun z hz => hg z (List.mem_cons_of_mem x hz)) hothers]

/-- What is made of the results of a walk may be made of each of them. -/
theorem mapM_map_eq {γ : Type} (g : β → γ) :
    xs.mapM (fun x => (step x).map g) = (xs.mapM step).map (List.map g) := by
  induction xs with
  | nil => rfl
  | cons x rest ih =>
    rw [List.mapM_cons, List.mapM_cons, ih]
    cases step x with
    | error e => rfl
    | ok y =>
      cases rest.mapM step with
      | error e => rfl
      | ok others => rfl

/-- A walk whose steps are walks through the parts of the items is a walk through all parts. -/
theorem mapM_eq_map_flatMap {γ δ : Type} {parts : α → List γ} {inner : γ → Except ε δ} {g : α → β}
    (h : ∀ x ∈ xs, step x = ((parts x).mapM inner).map fun _ => g x) :
    xs.mapM step = ((xs.flatMap parts).mapM inner).map fun _ => xs.map g := by
  induction xs with
  | nil => rfl
  | cons x rest ih =>
    have hrest := ih fun y hy => h y (List.mem_cons_of_mem x hy)
    rw [List.mapM_cons, h x List.mem_cons_self, hrest, List.flatMap_cons, List.mapM_append]
    cases (parts x).mapM inner with
    | error e => rfl
    | ok first =>
      cases (rest.flatMap parts).mapM inner with
      | error e => rfl
      | ok others => rfl

end Items

/-- The second outcome is the first one, unless the first is a failure of a kind. -/
def SameUnless (kind : ε → Prop) (first second : Except ε α) : Prop :=
  second = first ∨ ∃ e, first = .error e ∧ kind e

namespace SameUnless

variable {kind : ε → Prop} {first second : Except ε α}

/-- What the first gives, the second gives. -/
theorem eq_ok (h : SameUnless kind first second) {a : α} (ha : first = .ok a) :
    second = .ok a := by
  rcases h with h | ⟨e, he, -⟩
  · rw [h, ha]
  · rw [ha] at he
    cases he

/-- A failure of another kind is the failure of both. -/
theorem eq_error (h : SameUnless kind first second) {e : ε} (he : first = .error e)
    (hkind : ¬ kind e) : second = .error e := by
  rcases h with h | ⟨e', he', hkind'⟩
  · rw [h, he]
  · rw [he] at he'
    cases he'
    exact absurd hkind' hkind

/-- Sequences that begin alike and go on alike have the same outcome. -/
theorem bind (h : SameUnless kind first second) {f g : α → Except ε β}
    (hnext : ∀ a, SameUnless kind (f a) (g a)) :
    SameUnless kind (first >>= f) (second >>= g) := by
  rcases h with rfl | ⟨e, rfl, hkind⟩
  · cases second with
    | error e => exact .inl rfl
    | ok a => exact hnext a
  · exact .inr ⟨e, rfl, hkind⟩

/-- What is made of like outcomes is alike. -/
theorem map (h : SameUnless kind first second) (f : α → β) :
    SameUnless kind (first.map f) (second.map f) := by
  rcases h with rfl | ⟨e, rfl, hkind⟩
  · exact .inl rfl
  · exact .inr ⟨e, rfl, hkind⟩

/-- Walks through a list are alike when the steps are. -/
theorem mapM {xs : List α} {step other : α → Except ε β}
    (h : ∀ x ∈ xs, SameUnless kind (step x) (other x)) :
    SameUnless kind (xs.mapM step) (xs.mapM other) := by
  induction xs with
  | nil => exact .inl rfl
  | cons x rest ih =>
    have hrest := ih fun y hy => h y (List.mem_cons_of_mem x hy)
    rw [List.mapM_cons, List.mapM_cons]
    exact (h x List.mem_cons_self).bind fun y => hrest.bind fun others => .inl rfl

end SameUnless

/-- Both outcomes are the same failure, or results that are related. -/
def Corresponds (related : α → β → Prop) (first : Except ε α) (second : Except ε β) : Prop :=
  (∃ e, first = .error e ∧ second = .error e) ∨
    ∃ a b, first = .ok a ∧ second = .ok b ∧ related a b

/-- What is made of corresponding outcomes corresponds. -/
theorem Corresponds.map {γ δ : Type} {related : α → β → Prop} {next : γ → δ → Prop}
    {first : Except ε α} {second : Except ε β} {f : α → γ} {g : β → δ}
    (h : Corresponds related first second) (hnext : ∀ a b, related a b → next (f a) (g b)) :
    Corresponds next (first.map f) (second.map g) := by
  rcases h with ⟨e, rfl, rfl⟩ | ⟨a, b, rfl, rfl, hrelated⟩
  · exact .inl ⟨e, rfl, rfl⟩
  · exact .inr ⟨f a, g b, rfl, rfl, hnext a b hrelated⟩

/-- Whatever result the first outcome has, the second one has a result that is related to it. -/
def Yields (related : α → β → Prop) (first : Except ε α) (second : Except ε β) : Prop :=
  ∀ a, first = .ok a → ∃ b, second = .ok b ∧ related a b

namespace Yields

variable {γ δ : Type} {related : α → β → Prop} {first : Except ε α} {second : Except ε β}

/-- Sequences of related steps have related results. -/
theorem bind {next : γ → δ → Prop} (h : Yields related first second) {f : α → Except ε γ}
    {g : β → Except ε δ} (hnext : ∀ a b, related a b → Yields next (f a) (g b)) :
    Yields next (first >>= f) (second >>= g) := by
  intro c hc
  obtain ⟨a, ha, hfa⟩ := except_bind_eq_ok_iff.mp hc
  obtain ⟨b, hb, hab⟩ := h a ha
  obtain ⟨d, hgb, hcd⟩ := hnext a b hab c hfa
  exact ⟨d, except_bind_eq_ok_iff.mpr ⟨b, hb, hgb⟩, hcd⟩

/-- Related results are related outcomes. -/
theorem of_related {a : α} {b : β} (h : related a b) :
    Yields related (.ok a : Except ε α) (.ok b) := by
  intro a' ha'
  cases ha'
  exact ⟨b, rfl, h⟩

end Yields

end LayeredConfig
