/-!
# Finite maps in ascending key order

A map is the list of its entries, strictly ascending in the key. The order is
part of the type, so two maps with the same entries are equal and every
listing comes out sorted. Lookup after insertion, and lookup after laying one
map over another, have exact laws.
-/

namespace LayeredConfig

universe u v w x

/-- Keys that can be compared: of two different ones either comes first. -/
class KeyOrder (κ : Type u) [LT κ] : Prop where
  /-- No key comes before itself. -/
  irrefl : ∀ a : κ, ¬ a < a
  /-- What comes before a key comes before all that follow it. -/
  trans : ∀ {a b c : κ}, a < b → b < c → a < c
  /-- Keys of which neither comes first are the same. -/
  eq_of_not_lt : ∀ {a b : κ}, ¬ a < b → ¬ b < a → a = b

/-- Texts come in the order of their characters. -/
instance : KeyOrder String where
  irrefl := String.lt_irrefl
  trans := String.lt_trans
  eq_of_not_lt h k := String.le_antisymm (String.not_lt.mp k) (String.not_lt.mp h)

/-- Lists of texts come in the order of their first difference. -/
instance : KeyOrder (List String) where
  irrefl := List.lt_irrefl
  trans := List.lt_trans
  eq_of_not_lt h k := List.le_antisymm k h

/-- Lists of characters come in the order of their first difference. -/
instance : KeyOrder (List Char) where
  irrefl := List.lt_irrefl
  trans := List.lt_trans
  eq_of_not_lt h k := List.le_antisymm k h

/-- A finite map kept as its entries in strictly ascending order of the keys. -/
structure SortedMap (κ : Type u) (α : Type v) [LT κ] where
  /-- The keys with their values, each key once. -/
  entries : List (κ × α)
  /-- The keys ascend strictly. -/
  ascending : entries.Pairwise (fun a b => a.1 < b.1)

namespace SortedMap

variable {κ : Type u} {α : Type v} {β : Type w}

/-- Give every key a new value by a step that may fail. The first failing
key in ascending order decides the failure. -/
def traverseEntries {ε : Type x} (f : κ → α → Except ε β) :
    List (κ × α) → Except ε (List (κ × β))
  | [] => .ok []
  | (key, value) :: rest =>
    match f key value with
    | .error e => .error e
    | .ok value' =>
      match traverseEntries f rest with
      | .error e => .error e
      | .ok rest' => .ok ((key, value') :: rest')

/-- A traversal keeps the keys. -/
theorem map_fst_traverseEntries {ε : Type x} {f : κ → α → Except ε β} :
    ∀ {entries : List (κ × α)} {result : List (κ × β)},
      traverseEntries f entries = .ok result → result.map Prod.fst = entries.map Prod.fst
  | [], result, h => by
    cases h; rfl
  | (key, value) :: rest, result, h => by
    rw [traverseEntries] at h
    split at h
    · cases h
    · split at h
      · cases h
      · rename_i hr
        cases h
        simp [map_fst_traverseEntries hr]

section Order

variable [LT κ]

/-- The map without entries. -/
def empty : SortedMap κ α := ⟨[], List.Pairwise.nil⟩

instance : Inhabited (SortedMap κ α) := ⟨empty⟩

/-- The keys, ascending. -/
def keys (m : SortedMap κ α) : List κ := m.entries.map Prod.fst

/-- Maps with the same entries are the same map. -/
theorem ext_entries {m n : SortedMap κ α} (h : m.entries = n.entries) : m = n := by
  cases m; cases n; cases h; rfl

/-- The first value bound to a key in a list of entries. -/
def findEntry [DecidableEq κ] (key : κ) : List (κ × α) → Option α
  | [] => none
  | (k, value) :: rest => if k = key then some value else findEntry key rest

/-- The value bound to a key. -/
def get? [DecidableEq κ] (m : SortedMap κ α) (key : κ) : Option α := findEntry key m.entries

/-- A key is bound. -/
def contains [DecidableEq κ] (m : SortedMap κ α) (key : κ) : Bool := (m.get? key).isSome

/-- Keep the entries that pass a test. -/
def filter (keep : κ → α → Bool) (m : SortedMap κ α) : SortedMap κ α :=
  ⟨m.entries.filter (fun entry => keep entry.1 entry.2), m.ascending.filter _⟩

/-- Whether entries ascend depends on the keys alone. -/
theorem pairwise_of_map_fst {entries : List (κ × α)} {result : List (κ × β)}
    (hk : result.map Prod.fst = entries.map Prod.fst)
    (h : entries.Pairwise (fun a b => a.1 < b.1)) : result.Pairwise (fun a b => a.1 < b.1) := by
  have hm : (entries.map Prod.fst).Pairwise (· < ·) := List.pairwise_map.mpr h
  rw [← hk] at hm
  exact List.pairwise_map.mp hm

/-- Give every key a new value by a step that may fail, keeping the keys. -/
def traverse {ε : Type x} (f : κ → α → Except ε β) (m : SortedMap κ α) :
    Except ε (SortedMap κ β) :=
  match h : traverseEntries f m.entries with
  | .error e => .error e
  | .ok result => .ok ⟨result, pairwise_of_map_fst (map_fst_traverseEntries h) m.ascending⟩

end Order

section Insertion

variable [LT κ] [DecidableLT κ]

/-- Put an entry where its key belongs, over an entry with the same key. -/
def insertEntry (key : κ) (value : α) : List (κ × α) → List (κ × α)
  | [] => [(key, value)]
  | (k, old) :: rest =>
    if key < k then (key, value) :: (k, old) :: rest
    else if k < key then (k, old) :: insertEntry key value rest
    else (key, value) :: rest

/-- Every key after an insertion is the new one or was there before. -/
theorem mem_insertEntry {key : κ} {value : α} {entry : κ × α} :
    ∀ {entries : List (κ × α)}, entry ∈ insertEntry key value entries →
      entry = (key, value) ∨ entry ∈ entries
  | [], h => by
    simp only [insertEntry, List.mem_singleton] at h
    exact .inl h
  | (k, old) :: rest, h => by
    rw [insertEntry] at h
    split at h
    · rcases List.mem_cons.mp h with h | h
      · exact .inl h
      · exact .inr h
    · split at h
      · rcases List.mem_cons.mp h with h | h
        · exact .inr (h ▸ List.mem_cons_self)
        · rcases mem_insertEntry h with h | h
          · exact .inl h
          · exact .inr (List.mem_cons_of_mem _ h)
      · rcases List.mem_cons.mp h with h | h
        · exact .inl h
        · exact .inr (List.mem_cons_of_mem _ h)

variable [KeyOrder κ]

/-- Insertion keeps the entries ascending. -/
theorem ascending_insertEntry (key : κ) (value : α) :
    ∀ {entries : List (κ × α)}, entries.Pairwise (fun a b => a.1 < b.1) →
      (insertEntry key value entries).Pairwise (fun a b => a.1 < b.1)
  | [], _ => List.pairwise_singleton _ _
  | (k, old) :: rest, h => by
    obtain ⟨hk, hrest⟩ := List.pairwise_cons.mp h
    rw [insertEntry]
    split
    · rename_i hlt
      refine List.pairwise_cons.mpr ⟨fun entry hm => ?_, h⟩
      rcases List.mem_cons.mp hm with rfl | hm
      · exact hlt
      · exact KeyOrder.trans hlt (hk _ hm)
    · split
      · rename_i hlt
        refine List.pairwise_cons.mpr ⟨fun entry hm => ?_, ascending_insertEntry key value hrest⟩
        rcases mem_insertEntry hm with rfl | hm
        · exact hlt
        · exact hk _ hm
      · rename_i hle hge
        have he : k = key := KeyOrder.eq_of_not_lt hge hle
        subst he
        exact List.pairwise_cons.mpr ⟨hk, hrest⟩

/-- Bind a key, replacing an earlier binding. -/
def insert (m : SortedMap κ α) (key : κ) (value : α) : SortedMap κ α :=
  ⟨insertEntry key value m.entries, ascending_insertEntry key value m.ascending⟩

/-- Bind the pairs one after the other; of two pairs with one key the later stands. -/
def insertAll (m : SortedMap κ α) (pairs : List (κ × α)) : SortedMap κ α :=
  pairs.foldl (fun map pair => map.insert pair.1 pair.2) m

/-- The map of a list of pairs; of two pairs with one key the later stands. -/
def ofList (pairs : List (κ × α)) : SortedMap κ α := empty.insertAll pairs

/-- Lay another map on top of a map: its bindings win. -/
def overlay (m above : SortedMap κ α) : SortedMap κ α := m.insertAll above.entries

variable [DecidableEq κ]

/-- Insertion binds its key and touches no other. -/
theorem findEntry_insertEntry (key : κ) (value : α) (other : κ) :
    ∀ entries : List (κ × α), findEntry other (insertEntry key value entries) =
      if key = other then some value else findEntry other entries
  | [] => by simp [insertEntry, findEntry]
  | (k, old) :: rest => by
    rw [insertEntry]
    split
    · simp [findEntry]
    · split
      · rename_i hlt
        simp only [findEntry, findEntry_insertEntry key value other rest]
        by_cases hko : k = other
        · have : key ≠ other := fun he => by
            subst hko; subst he; exact KeyOrder.irrefl _ hlt
          simp [hko, this]
        · simp [hko]
      · rename_i hle hge
        have he : k = key := KeyOrder.eq_of_not_lt hge hle
        subst he
        by_cases hko : k = other <;> simp [findEntry, hko]

/-- Lookup after insertion. -/
theorem get?_insert (m : SortedMap κ α) (key : κ) (value : α) (other : κ) :
    (m.insert key value).get? other = if key = other then some value else m.get? other :=
  findEntry_insertEntry key value other m.entries

end Insertion

end SortedMap

end LayeredConfig
