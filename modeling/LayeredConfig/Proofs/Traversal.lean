import LayeredConfig.Proofs.Lookup
import LayeredConfig.Proofs.Outcome

/-!
# Walking through the entries of a map

A traversal gives every key a new value and keeps the keys. It is a walk
through the list of entries, so what holds of walks through lists holds of it,
and what a key is bound to afterwards comes from its own value alone.
-/

namespace LayeredConfig.SortedMap

variable {κ ε α β : Type} {f g : κ → α → Except ε β}

/-- A step for an entry keeps the key. -/
def keyed (f : κ → α → Except ε β) (entry : κ × α) : Except ε (κ × β) :=
  match f entry.1 entry.2 with
  | .ok value => .ok (entry.1, value)
  | .error e => .error e

/-- A step for an entry gives the key with its new value. -/
theorem keyed_eq_ok_iff {entry : κ × α} {entry' : κ × β} :
    keyed f entry = .ok entry' ↔ entry'.1 = entry.1 ∧ f entry.1 entry.2 = .ok entry'.2 := by
  obtain ⟨key, value⟩ := entry
  obtain ⟨key', value'⟩ := entry'
  rw [keyed]
  cases f key value with
  | error e => simp
  | ok new => simp [eq_comm]

/-- A step for an entry fails when the step for its value does. -/
theorem keyed_eq_error_iff {entry : κ × α} {e : ε} :
    keyed f entry = .error e ↔ f entry.1 entry.2 = .error e := by
  rw [keyed]
  cases f entry.1 entry.2 with
  | error e' => simp
  | ok new => simp

/-- Steps for entries are alike when the steps for their values are. -/
theorem sameUnless_keyed {kind : ε → Prop} {entry : κ × α}
    (h : SameUnless kind (f entry.1 entry.2) (g entry.1 entry.2)) :
    SameUnless kind (keyed f entry) (keyed g entry) := by
  rcases h with h | ⟨e, he, hkind⟩
  · exact .inl (by rw [keyed, keyed, h])
  · exact .inr ⟨e, keyed_eq_error_iff.mpr he, hkind⟩

/-- A traversal of entries is a walk through their list. -/
theorem traverseEntries_eq_mapM (f : κ → α → Except ε β) (entries : List (κ × α)) :
    traverseEntries f entries = entries.mapM (keyed f) := by
  induction entries with
  | nil => rfl
  | cons entry rest ih =>
    obtain ⟨key, value⟩ := entry
    rw [traverseEntries, ih, List.mapM_cons, keyed]
    cases f key value with
    | error e => rfl
    | ok new =>
      cases rest.mapM (keyed f) with
      | error e => rfl
      | ok others => rfl

section Map

variable [LT κ] {m : SortedMap κ α} {m' : SortedMap κ β}

/-- A traversal gives the map of the new entries. -/
theorem traverse_eq_ok_iff :
    m.traverse f = .ok m' ↔ traverseEntries f m.entries = .ok m'.entries := by
  rw [traverse]
  split
  · rename_i e he
    rw [he]
    simp
  · rename_i result hresult
    constructor
    · intro h
      cases h
      exact hresult
    · intro h
      rw [hresult] at h
      exact congrArg Except.ok (ext_entries (Except.ok.inj h))

/-- A traversal fails when the traversal of its entries does. -/
theorem traverse_eq_error_iff {e : ε} :
    m.traverse f = .error e ↔ traverseEntries f m.entries = .error e := by
  rw [traverse]
  split
  · rename_i e' he
    rw [he, Except.error.injEq, Except.error.injEq]
  · rename_i result hresult
    constructor
    · intro h
      cases h
    · intro h
      rw [hresult] at h
      cases h

/-- A traversal has a result when the traversal of its entries has one. -/
theorem exists_traverse_eq_ok_iff :
    (∃ m', m.traverse f = .ok m') ↔ ∃ entries, traverseEntries f m.entries = .ok entries := by
  constructor
  · rintro ⟨m', h⟩
    exact ⟨m'.entries, traverse_eq_ok_iff.mp h⟩
  · rintro ⟨entries, h⟩
    exact ⟨⟨entries, pairwise_of_map_fst (map_fst_traverseEntries h) m.ascending⟩,
      traverse_eq_ok_iff.mpr h⟩

/-- Around an entry stand the entries with smaller keys and those with greater keys. -/
theorem mem_of_entries_eq [KeyOrder κ] {before after : List (κ × α)} {entry other : κ × α}
    (h : m.entries = before ++ entry :: after) :
    other ∈ before ↔ other ∈ m.entries ∧ other.1 < entry.1 := by
  have hascending := m.ascending
  rw [h, List.pairwise_append] at hascending
  obtain ⟨-, hafter, hbefore⟩ := hascending
  constructor
  · intro hmem
    exact ⟨by simp [h, hmem], hbefore other hmem entry List.mem_cons_self⟩
  · rintro ⟨hmem, hlt⟩
    rw [h, List.mem_append, List.mem_cons] at hmem
    rcases hmem with hmem | rfl | hmem
    · exact hmem
    · exact absurd hlt (KeyOrder.irrefl _)
    · have hgt := (List.pairwise_cons.mp hafter).1 other hmem
      exact absurd (KeyOrder.trans hlt hgt) (KeyOrder.irrefl _)

/-- Every new entry has the key of an old one and the value that the step gives for it. -/
theorem exists_mem_of_traverse (h : m.traverse f = .ok m') {entry' : κ × β}
    (hmem : entry' ∈ m'.entries) :
    ∃ entry ∈ m.entries, entry'.1 = entry.1 ∧ f entry.1 entry.2 = .ok entry'.2 := by
  rw [traverse_eq_ok_iff, traverseEntries_eq_mapM] at h
  obtain ⟨entry, hentry, hstep⟩ := exists_mem_of_mapM h hmem
  exact ⟨entry, hentry, keyed_eq_ok_iff.mp hstep⟩

/-- A traversal that gives every key its own value gives the map. -/
theorem traverse_eq_self {f : κ → α → Except ε α}
    (h : ∀ entry ∈ m.entries, f entry.1 entry.2 = .ok entry.2) : m.traverse f = .ok m := by
  rw [traverse_eq_ok_iff, traverseEntries_eq_mapM]
  exact mapM_eq_self fun entry hentry => keyed_eq_ok_iff.mpr ⟨rfl, h entry hentry⟩

/-- The failure of a traversal is the failure of an entry. -/
theorem exists_mem_of_traverse_eq_error {e : ε} (h : m.traverse f = .error e) :
    ∃ entry ∈ m.entries, f entry.1 entry.2 = .error e := by
  rw [traverse_eq_error_iff, traverseEntries_eq_mapM] at h
  obtain ⟨entry, hentry, hstep⟩ := exists_mem_of_mapM_eq_error h
  exact ⟨entry, hentry, keyed_eq_error_iff.mp hstep⟩

/-- Traversals are alike when the steps are. -/
theorem sameUnless_traverse {kind : ε → Prop}
    (h : ∀ key value, SameUnless kind (f key value) (g key value)) :
    SameUnless kind (m.traverse f) (m.traverse g) := by
  have hentries : SameUnless kind (traverseEntries f m.entries) (traverseEntries g m.entries) := by
    rw [traverseEntries_eq_mapM, traverseEntries_eq_mapM]
    exact SameUnless.mapM fun entry _ => sameUnless_keyed (h entry.1 entry.2)
  rcases hentries with hsame | ⟨e, he, hkind⟩
  · left
    cases hf : m.traverse f with
    | error e => rw [traverse_eq_error_iff, hsame, traverse_eq_error_iff.mp hf]
    | ok m' => rw [traverse_eq_ok_iff, hsame, traverse_eq_ok_iff.mp hf]
  · exact .inr ⟨e, traverse_eq_error_iff.mpr he, hkind⟩

/-- A key is bound afterwards exactly when it was bound before, to what the step gives for its
old value. -/
theorem get?_traverse [DecidableEq κ] (h : m.traverse f = .ok m') (key : κ) :
    (m.get? key = none ∧ m'.get? key = none) ∨
      ∃ value value', m.get? key = some value ∧ f key value = .ok value' ∧
        m'.get? key = some value' := by
  have hentries := traverse_eq_ok_iff.mp h
  rw [get?, get?]
  generalize m.entries = entries at hentries
  generalize m'.entries = result at hentries
  induction entries generalizing result with
  | nil =>
    cases hentries
    exact .inl ⟨rfl, rfl⟩
  | cons entry rest ih =>
    obtain ⟨k, value⟩ := entry
    rw [traverseEntries] at hentries
    split at hentries
    · cases hentries
    · rename_i value' hvalue
      split at hentries
      · cases hentries
      · rename_i others hothers
        cases hentries
        rw [findEntry, findEntry]
        by_cases hk : k = key
        · subst hk
          rw [if_pos rfl, if_pos rfl]
          exact .inr ⟨value, value', rfl, hvalue, rfl⟩
        · rw [if_neg hk, if_neg hk]
          exact ih others hothers

end Map

end LayeredConfig.SortedMap
