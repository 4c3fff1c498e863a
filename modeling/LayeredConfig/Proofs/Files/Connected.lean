import LayeredConfig.Proofs.Files.WellFormed

/-!
# Directories above every node

A file tree is connected when every node stands directly in a directory. A path
leads to a place in a directory, whether something stands there or not. So putting
a node where a path leads keeps a tree connected, and so does taking away a place
with everything below it: every tree that operations make is connected.
-/

namespace LayeredConfig

/-- A relative path that is not empty takes a step. -/
theorem Path.steps_ne_nil {p : Path} (htext : p.text ≠ "") (hrelative : p.isAbsolute = false) :
    p.steps ≠ [] := by
  have hnamed : p.namedParts ≠ [] := by
    have hne : p.text.toList ≠ [] := by simpa using htext
    obtain ⟨c, rest, hc⟩ := List.exists_cons_of_ne_nil hne
    have hslash : c ≠ '/' := by
      intro he
      rw [isAbsolute, hc, he] at hrelative
      cases hrelative
    -- the first part begins with the first character
    obtain ⟨part, parts, hparts⟩ : ∃ part parts,
        Text.splitAtChar '/' (c :: rest) = (c :: part) :: parts := by
      rw [Text.splitAtChar, if_neg hslash]
      split
      · exact ⟨[], [], rfl⟩
      · exact ⟨_, _, rfl⟩
    rw [namedParts, Path.parts, hc, hparts]
    simp
  rcases p.steps_eq with hsteps | hsteps
  · rwa [hsteps]
  · rw [hsteps]
    simp

namespace FileTree

/-- Every node stands directly in a directory. -/
def IsConnected (tree : FileTree) : Prop :=
  ∀ location, (tree.node? location).isSome → tree.node? location.dropLast = some .directory

variable {tree tree' : FileTree} {followLast : Bool} {here location : Location}
  {steps : List String} {p : Path}

/-- Only what stands at the keys of the nodes counts. -/
theorem isConnected_iff :
    tree.IsConnected ↔
      ∀ location ∈ tree.nodes.keys, tree.node? location.dropLast = some .directory := by
  constructor
  · intro h location hmem
    cases location with
    | nil => rfl
    | cons part rest => exact h _ (SortedMap.mem_keys_iff.mp hmem)
  · intro h location hsome
    cases location with
    | nil => rfl
    | cons part rest => exact h _ (SortedMap.mem_keys_iff.mpr hsome)

instance : Decidable tree.IsConnected :=
  decidable_of_iff (∀ location ∈ tree.nodes.keys, tree.node? location.dropLast = some .directory)
    isConnected_iff.symm

/-! ## Paths lead to places in directories -/

/-- A walk arrives at a place in a directory, or stops at a link in one. -/
def Walk.IsInDirectory (tree : FileTree) : Walk → Prop
  | .arrived location _ => tree.node? location.dropLast = some .directory
  | .atLink directory _ _ => tree.node? directory = some .directory
  | .failed _ => True

/-- A walk from a place in a directory ends in one. -/
theorem walk_isInDirectory (h : tree.IsConnected)
    (hhere : tree.node? here.dropLast = some .directory) :
    (tree.walk followLast here steps).IsInDirectory tree := by
  induction steps generalizing here with
  | nil => exact hhere
  | cons name rest ih =>
    rw [walk]
    split
    · trivial
    · rename_i hnode
      have hdirectory := Classical.not_not.mp hnode
      have hentry : tree.node? (here ++ [name]).dropLast = some .directory := by
        rwa [List.dropLast_concat]
      split
      · exact ih hhere
      · split
        · exact ih (h _ (by rw [hhere]; rfl))
        · split
          · split
            · exact hentry
            · trivial
          · split
            · exact hentry
            · exact hdirectory
          · exact ih hentry

/-- Steps followed from a place in a directory lead to one. -/
theorem follow_isInDirectory {links : Nat} {node : Option Node} (h : tree.IsConnected)
    (hhere : tree.node? here.dropLast = some .directory)
    (hfollow : tree.follow followLast links here steps = .ok (location, node)) :
    tree.node? location.dropLast = some .directory := by
  induction links generalizing here steps with
  | zero =>
    have hwalk : (tree.walk followLast here steps).IsInDirectory tree := walk_isInDirectory h hhere
    rw [follow] at hfollow
    split at hfollow
    · rename_i harrived
      rw [harrived] at hwalk
      cases hfollow
      exact hwalk
    · cases hfollow
    · cases hfollow
  | succ links ih =>
    have hwalk : (tree.walk followLast here steps).IsInDirectory tree := walk_isInDirectory h hhere
    rw [follow] at hfollow
    split at hfollow
    · rename_i harrived
      rw [harrived] at hwalk
      cases hfollow
      exact hwalk
    · cases hfollow
    · rename_i directory target rest hlink
      rw [hlink] at hwalk
      refine ih ?_ hfollow
      rw [Path.origin]
      split
      · rfl
      · have hdirectory : tree.node? directory = some .directory := hwalk
        exact h directory (by rw [hdirectory]; rfl)

/-- In a connected tree a path leads to a place in a directory. -/
theorem locate_isInDirectory {node : Option Node} (h : tree.IsConnected)
    (hlocate : tree.locate followLast p = .ok (location, node)) :
    tree.node? location.dropLast = some .directory := by
  rw [locate] at hlocate
  split at hlocate
  · cases hlocate
  · rename_i htext
    by_cases horigin : tree.node? (p.origin tree.current) = some .directory
    · exact follow_isInDirectory h (h _ (by rw [horigin]; rfl)) hlocate
    · -- a relative path takes a step, which is not possible from where one is
      have hrelative : p.isAbsolute = false := by
        cases habsolute : p.isAbsolute with
        | false => rfl
        | true =>
          rw [Path.origin, habsolute] at horigin
          exact absurd rfl horigin
      obtain ⟨name, rest, hsteps⟩ := List.exists_cons_of_ne_nil (p.steps_ne_nil htext hrelative)
      rw [hsteps, maxLinks, follow, walk, if_pos horigin] at hlocate
      cases hlocate

/-! ## Operations keep a tree connected -/

/-- The tree that holds nothing is connected. -/
theorem isConnected_empty : empty.IsConnected := by
  intro location hsome
  cases location with
  | nil => rfl
  | cons part rest => cases hsome

/-- Putting a node where a path leads keeps a tree connected. -/
theorem isConnected_puts (h : tree.IsConnected) (hputs : Puts tree tree') : tree'.IsConnected := by
  cases hputs with
  | nothing => exact h
  | @node _ _ location old new hlocate hold =>
    have hparent := locate_isInDirectory h hlocate
    rw [locate_node hlocate] at hold
    have hne : location ≠ [] := by
      rintro rfl
      exact hold rfl
    -- what is put stands in no directory's place, so no directory is lost
    have hkept : ∀ {other}, tree.node? other = some .directory →
        (tree.put location new).node? other = some .directory := by
      intro other hother
      rw [node?_put tree location new other hne]
      split
      · rename_i he
        exact absurd (he ▸ hother) hold
      · exact hother
    intro other hsome
    rw [node?_put tree location new other hne] at hsome
    split at hsome
    · rename_i he
      exact hkept (he ▸ hparent)
    · exact hkept (h other hsome)

/-- Removing keeps a tree connected. -/
theorem isConnected_removeAll (h : tree.IsConnected) (hremove : tree.removeAll p = .ok tree') :
    tree'.IsConnected := by
  rw [removeAll] at hremove
  split at hremove
  · rename_i location node hlocate
    cases hremove
    intro other hsome
    rw [node?_cut] at hsome
    split at hsome
    · cases hsome
    · rename_i hkept
      have hparent := h other hsome
      rw [node?_cut, hparent]
      split
      · rename_i hcut
        have hunder := hcut.1.trans (List.dropLast_prefix other)
        refine absurd ⟨hunder, ?_⟩ hkept
        rintro rfl
        exact hcut.2 rfl
      · rfl
  · cases hremove
  · cases hremove

/-- Making a directory after its missing ancestors keeps a tree connected. -/
theorem isConnected_makeAllDirectories (p : Path) (h : tree.IsConnected) :
    (tree.makeAllDirectories p).1.IsConnected :=
  makeAllDirectories_induction
    (fun hbefore hone => isConnected_puts hbefore (puts_of_makeDirectory hone)) h

/-- Every tree that operations make is connected. -/
theorem Arises.isConnected (h : Arises tree) : tree.IsConnected := by
  induction h with
  | empty => exact isConnected_empty
  | store _ hstore ih => exact isConnected_puts ih (puts_of_store hstore)
  | setMode _ hset ih => exact isConnected_puts ih (puts_of_setMode hset)
  | makeAllDirectories p _ ih => exact isConnected_makeAllDirectories p ih
  | makeTemporary _ hmake ih =>
    exact isConnected_puts ih (puts_of_makeDirectory (makeTemporary_eq_ok hmake))
  | makeLink _ hmake ih => exact isConnected_puts ih (puts_of_makeLink hmake)
  | removeAll _ hremove ih => exact isConnected_removeAll ih hremove
  | enter _ _ ih => exact ih

end FileTree

end LayeredConfig
