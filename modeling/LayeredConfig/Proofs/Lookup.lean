import LayeredConfig.SortedMap

/-!
# What a map binds after other bindings are laid over it

Entries that ascend bind each key once, so it does not matter from which end
they are searched. Inserting a list of pairs lets the last pair of a key win,
and laying a map over another answers every key from above first.
-/

namespace LayeredConfig.SortedMap

universe u v

variable {κ : Type u} {α : Type v} [DecidableEq κ]

/-- A search goes on in the second list when the first does not bind the key. -/
theorem findEntry_append (key : κ) (first second : List (κ × α)) :
    findEntry key (first ++ second) = (findEntry key first).or (findEntry key second) := by
  induction first with
  | nil => simp [findEntry]
  | cons entry rest ih =>
    obtain ⟨k, value⟩ := entry
    by_cases hk : k = key
    · simp [findEntry, hk]
    · simp [findEntry, hk, ih]

/-- A key that no entry has is not found. -/
theorem findEntry_eq_none {key : κ} {entries : List (κ × α)}
    (h : ∀ entry ∈ entries, entry.1 ≠ key) : findEntry key entries = none := by
  induction entries with
  | nil => rfl
  | cons entry rest ih =>
    have hk : entry.1 ≠ key := h entry List.mem_cons_self
    rw [findEntry, if_neg hk]
    exact ih fun other hm => h other (List.mem_cons_of_mem _ hm)

/-- A key has an entry exactly when it is found. -/
theorem isSome_findEntry_iff {key : κ} {entries : List (κ × α)} :
    (findEntry key entries).isSome ↔ key ∈ entries.map Prod.fst := by
  induction entries with
  | nil => simp [findEntry]
  | cons entry rest ih =>
    obtain ⟨k, value⟩ := entry
    by_cases hk : k = key
    · simp [findEntry, hk]
    · simp [findEntry, hk, ih, Ne.symm hk]

/-- What is found is the value of an entry. -/
theorem mem_of_findEntry {key : κ} {entries : List (κ × α)} {value : α}
    (h : findEntry key entries = some value) : (key, value) ∈ entries := by
  induction entries with
  | nil => cases h
  | cons entry rest ih =>
    obtain ⟨k, first⟩ := entry
    rw [findEntry] at h
    split at h
    · rename_i hk
      obtain rfl := Option.some.inj h
      exact hk ▸ List.mem_cons_self
    · exact List.mem_cons_of_mem _ (ih h)

/-- What is found is the value of the first entry with the key. -/
theorem findEntry_eq_some_iff {key : κ} {entries : List (κ × α)} {value : α} :
    findEntry key entries = some value ↔
      ∃ before after, entries = before ++ (key, value) :: after ∧
        ∀ entry ∈ before, entry.1 ≠ key := by
  constructor
  · intro h
    induction entries with
    | nil => cases h
    | cons entry rest ih =>
      obtain ⟨k, first⟩ := entry
      rw [findEntry] at h
      split at h
      · rename_i hk
        cases h
        exact ⟨[], rest, by rw [hk, List.nil_append], by simp⟩
      · rename_i hk
        obtain ⟨before, after, rfl, hbefore⟩ := ih h
        exact ⟨(k, first) :: before, after, rfl, List.forall_mem_cons.mpr ⟨hk, hbefore⟩⟩
  · rintro ⟨before, after, rfl, hbefore⟩
    rw [findEntry_append, findEntry_eq_none hbefore]
    simp [findEntry]

/-- The keys are what is bound. -/
theorem mem_keys_iff [LT κ] {m : SortedMap κ α} {key : κ} :
    key ∈ m.keys ↔ (m.get? key).isSome :=
  isSome_findEntry_iff.symm

omit [DecidableEq κ] in
/-- The keys ascend strictly. -/
theorem pairwise_keys [LT κ] (m : SortedMap κ α) : m.keys.Pairwise (· < ·) :=
  List.pairwise_map.mpr m.ascending

/-- The map without entries binds nothing. -/
theorem get?_empty [LT κ] (key : κ) : (empty : SortedMap κ α).get? key = none := rfl

/-- Of the entries with some keys only these keys are bound. -/
theorem get?_filter [LT κ] (m : SortedMap κ α) (keep : κ → Bool) (key : κ) :
    (m.filter fun k _ => keep k).get? key = if keep key then m.get? key else none := by
  rw [get?, get?, filter]
  dsimp only
  induction m.entries with
  | nil => simp [findEntry]
  | cons entry rest ih =>
    obtain ⟨k, value⟩ := entry
    by_cases hk : k = key
    · subst hk
      cases hkeep : keep k with
      | true => simp [hkeep, findEntry]
      | false => simpa [hkeep] using ih
    · cases hkeep : keep k with
      | true => simpa [hkeep, findEntry, hk] using ih
      | false => simpa [hkeep, findEntry, hk] using ih

variable [LT κ] [KeyOrder κ]

/-- Ascending entries give the same answer from behind. -/
theorem findEntry_reverse (key : κ) {entries : List (κ × α)}
    (h : entries.Pairwise fun a b => a.1 < b.1) :
    findEntry key entries.reverse = findEntry key entries := by
  induction entries with
  | nil => rfl
  | cons entry rest ih =>
    obtain ⟨k, value⟩ := entry
    obtain ⟨hbelow, hrest⟩ := List.pairwise_cons.mp h
    rw [List.reverse_cons, findEntry_append, ih hrest]
    by_cases hk : k = key
    · have hnone : findEntry key rest = none := by
        apply findEntry_eq_none
        intro other hm he
        have hlt : k < other.1 := hbelow other hm
        rw [he, hk] at hlt
        exact KeyOrder.irrefl key hlt
      simp [findEntry, hk, hnone]
    · simp [findEntry, hk]

/-- The entries are what is bound, with the values. -/
theorem mem_entries_iff {m : SortedMap κ α} {key : κ} {value : α} :
    (key, value) ∈ m.entries ↔ m.get? key = some value := by
  constructor
  · intro h
    obtain ⟨before, after, hsplit⟩ := List.append_of_mem h
    have hascending := m.ascending
    rw [hsplit] at hascending
    have hbelow := (List.pairwise_append.mp hascending).2.2
    refine findEntry_eq_some_iff.mpr ⟨before, after, hsplit, fun entry hentry hkey => ?_⟩
    have hlt : entry.1 < key := hbelow entry hentry (key, value) List.mem_cons_self
    rw [hkey] at hlt
    exact KeyOrder.irrefl key hlt
  · exact mem_of_findEntry

variable [DecidableLT κ]

/-- Of the pairs inserted one after the other, the last one of a key is bound. -/
theorem get?_insertAll (m : SortedMap κ α) (pairs : List (κ × α)) (key : κ) :
    (m.insertAll pairs).get? key = (findEntry key pairs.reverse).or (m.get? key) := by
  induction pairs generalizing m with
  | nil => simp [insertAll, findEntry]
  | cons pair rest ih =>
    obtain ⟨k, value⟩ := pair
    have hstep : m.insertAll ((k, value) :: rest) = (m.insert k value).insertAll rest := rfl
    rw [hstep, ih, get?_insert, List.reverse_cons, findEntry_append, Option.or_assoc]
    by_cases hk : k = key
    · simp [findEntry, hk]
    · simp [findEntry, hk]

/-- A map of pairs binds a key to the value of its last pair. -/
theorem get?_ofList_eq_some_iff {pairs : List (κ × α)} {key : κ} {value : α} :
    (ofList pairs).get? key = some value ↔
      ∃ before after, pairs = before ++ (key, value) :: after ∧
        ∀ pair ∈ after, pair.1 ≠ key := by
  rw [ofList, get?_insertAll, get?_empty, Option.or_none, findEntry_eq_some_iff]
  constructor
  · rintro ⟨before, after, hsplit, hbefore⟩
    refine ⟨after.reverse, before.reverse, ?_, fun pair hpair =>
      hbefore pair (List.mem_reverse.mp hpair)⟩
    rw [← List.reverse_reverse pairs, hsplit]
    simp
  · rintro ⟨before, after, rfl, hafter⟩
    exact ⟨after.reverse, before.reverse, by simp, fun pair hpair =>
      hafter pair (List.mem_reverse.mp hpair)⟩

/-- The map on top answers first. -/
theorem get?_overlay (m above : SortedMap κ α) (key : κ) :
    (m.overlay above).get? key = (above.get? key).or (m.get? key) := by
  rw [overlay, get?_insertAll, findEntry_reverse key above.ascending]
  rfl

omit [DecidableEq κ] in
/-- A key behind all others is inserted at the end. -/
theorem insertEntry_of_forall_lt {key : κ} (value : α) {entries : List (κ × α)}
    (h : ∀ entry ∈ entries, entry.1 < key) :
    insertEntry key value entries = entries ++ [(key, value)] := by
  induction entries with
  | nil => rfl
  | cons entry rest ih =>
    obtain ⟨k, old⟩ := entry
    obtain ⟨hk, hrest⟩ := List.forall_mem_cons.mp h
    have hnot : ¬ key < k := fun hlt => KeyOrder.irrefl k (KeyOrder.trans hk hlt)
    rw [insertEntry, if_neg hnot, if_pos hk, ih hrest]
    rfl

omit [DecidableEq κ] in
/-- Pairs that ascend from the keys of a map on are put behind its entries. -/
theorem entries_insertAll {m : SortedMap κ α} {pairs : List (κ × α)}
    (h : (m.entries ++ pairs).Pairwise fun a b => a.1 < b.1) :
    (m.insertAll pairs).entries = m.entries ++ pairs := by
  induction pairs generalizing m with
  | nil => exact (List.append_nil m.entries).symm
  | cons pair rest ih =>
    have hlt := (List.pairwise_append.mp h).2.2
    have hinsert : (m.insert pair.1 pair.2).entries = m.entries ++ [pair] :=
      insertEntry_of_forall_lt pair.2 fun entry hentry =>
        hlt entry hentry pair List.mem_cons_self
    have hrest := ih (m := m.insert pair.1 pair.2) (by rw [hinsert]; simpa using h)
    rw [hinsert, List.append_assoc, List.singleton_append] at hrest
    exact hrest

omit [DecidableEq κ] in
/-- A map is the map of its entries. -/
theorem ofList_entries (m : SortedMap κ α) : ofList m.entries = m :=
  ext_entries (entries_insertAll m.ascending)

end LayeredConfig.SortedMap
