import LayeredConfig.Proofs.Files.Walking
import LayeredConfig.Proofs.Lookup

/-!
# What an operation changes

Every operation that makes or writes something puts one node where a path leads,
and never in the place of a directory. So what holds of a tree and is kept by
such a step is kept by all these operations.
-/

namespace LayeredConfig.FileTree

variable {tree tree' : FileTree} {p : Path} {location : Location}

/-- One tree is another one with a node put where a path leads. -/
inductive Puts (tree : FileTree) : FileTree → Prop
  /-- Nothing is put. -/
  | nothing : Puts tree tree
  /-- A node is put where no directory stands. -/
  | node {followLast : Bool} {p : Path} {location : Location} {old : Option Node} (new : Node) :
      tree.locate followLast p = .ok (location, old) → old ≠ some .directory →
      Puts tree (tree.put location new)

/-- A path leads to a place with what stands there, whether the last link is followed or not. -/
theorem locate_node {followLast : Bool} {node : Option Node}
    (h : tree.locate followLast p = .ok (location, node)) : node = tree.node? location := by
  rw [locate] at h
  split at h
  · cases h
  · exact follow_node h

/-- Writing a file puts one node. -/
theorem puts_of_store {content : ByteArray} (h : tree.store p content = .ok tree') :
    Puts tree tree' := by
  rw [store] at h
  split at h
  · rename_i hlocate
    cases h
    exact .node _ hlocate (by simp)
  · rename_i hlocate
    cases h
    exact .node _ hlocate (by simp)
  · cases h
  · cases h
  · cases h

/-- Setting permission bits puts one node, or nothing where a directory stands. -/
theorem puts_of_setMode {mode : Nat} (h : tree.setMode p mode = .ok tree') : Puts tree tree' := by
  rw [setMode] at h
  split at h
  · rename_i hexisting
    cases h
    obtain ⟨hplace, hnode⟩ := existing?_eq_ok_iff.mp hexisting
    exact .node _ (locate_eq_ok_iff.mpr ⟨hplace, hnode.symm⟩) (by simp)
  · cases h
    exact .nothing
  · cases h

/-- A directory is made where nothing stands. -/
theorem makeDirectory_eq_ok (h : tree.makeDirectory p = .ok tree') :
    ∃ q location, tree.locate false q = .ok (location, none) ∧
      tree' = tree.put location .directory := by
  rw [makeDirectory] at h
  split at h
  · rename_i hlocate
    cases h
    exact ⟨_, _, hlocate, rfl⟩
  · cases h
  · cases h

/-- Making a directory puts one node. -/
theorem puts_of_makeDirectory (h : tree.makeDirectory p = .ok tree') : Puts tree tree' := by
  obtain ⟨q, location, hlocate, rfl⟩ := makeDirectory_eq_ok h
  exact .node _ hlocate (by simp)

/-- Making a link puts one node. -/
theorem puts_of_makeLink {target : Path} (h : tree.makeLink p target = .ok tree') :
    Puts tree tree' := by
  rw [makeLink] at h
  split at h
  · rename_i hlocate
    cases h
    exact .node _ hlocate (by simp)
  · cases h
  · cases h

/-- Taking a place away leaves nothing at it and below it, and everything else as it is. -/
theorem node?_cut (tree : FileTree) (location other : Location) :
    (tree.cut location).node? other =
      if location <+: other ∧ other ≠ [] then none else tree.node? other := by
  cases other with
  | nil => simp [node?]
  | cons part rest =>
    have hget : (tree.cut location).node? (part :: rest) =
        if !location.isPrefixOf (part :: rest) then tree.nodes.get? (part :: rest) else none :=
      SortedMap.get?_filter tree.nodes (fun key => !location.isPrefixOf key) (part :: rest)
    rw [hget]
    by_cases hunder : location <+: part :: rest
    · simp [hunder, List.isPrefixOf_iff_prefix.mpr hunder]
    · have hfalse : location.isPrefixOf (part :: rest) = false := by
        rw [← Bool.not_eq_true, List.isPrefixOf_iff_prefix]
        exact hunder
      simp [hunder, hfalse, node?]

/-- What making one directory keeps is kept by making a directory after its missing ancestors, also
when that stops on the way. -/
theorem makeAllDirectories_induction {motive : FileTree → Prop}
    (hstep : ∀ {before after p}, motive before → makeDirectory before p = .ok after → motive after)
    (htree : motive tree) : motive (tree.makeAllDirectories p).1 := by
  rw [makeAllDirectories]
  generalize p.parts.length + 1 = n
  -- on the number of ancestors: those above are made before the directory itself
  induction n generalizing p with
  | zero => exact htree
  | succ n ih =>
    rw [makeDirectoriesUpTo]
    split
    · exact htree
    · split
      · rename_i hone
        exact hstep htree hone
      · split
        · exact htree
        · rename_i parent _
          have hparents : motive (makeDirectoriesUpTo n tree parent).1 := ih
          split
          · rename_i hstopped
            rwa [hstopped] at hparents
          · rename_i hreached
            rw [hreached] at hparents
            split
            · rename_i hone
              exact hstep hparents hone
            · exact hparents
      · exact htree

/-- A temporary directory is made as any other one. -/
theorem makeTemporary_eq_ok {inside made : Path} {stem : String}
    (h : tree.makeTemporary inside stem = .ok (tree', made)) :
    tree.makeDirectory made = .ok tree' := by
  rw [makeTemporary] at h
  split at h
  · cases h
  · dsimp only at h
    split at h
    · rename_i hone
      cases h
      exact hone
    · cases h

end LayeredConfig.FileTree
