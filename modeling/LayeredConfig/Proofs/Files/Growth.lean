import LayeredConfig.Proofs.Files.Changes

/-!
# Trees that hold more

Making directories takes nothing away and replaces nothing. A path that leads to
something goes on leading to it, and so everything that exists is read as before. A
path that led to nothing may lead to something now.
-/

namespace LayeredConfig.FileTree

variable {tree tree' : FileTree} {p : Path}

/-- What stands in one tree stands at the same place in the other one. -/
structure Extends (tree tree' : FileTree) : Prop where
  /-- One is at the same place. -/
  current : tree'.current = tree.current
  /-- Nothing is taken away or replaced. -/
  keeps : ∀ location node, tree.node? location = some node → tree'.node? location = some node

/-- A tree holds what it holds. -/
theorem Extends.refl (tree : FileTree) : Extends tree tree := ⟨rfl, fun _ _ h => h⟩

/-- What holds more than a tree that holds more holds more. -/
theorem Extends.trans {tree'' : FileTree} (h : Extends tree tree') (h' : Extends tree' tree'') :
    Extends tree tree'' where
  current := h'.current.trans h.current
  keeps := fun location node hnode => h'.keeps location node (h.keeps location node hnode)

/-- Making a directory takes nothing away. -/
theorem extends_makeDirectory (h : tree.makeDirectory p = .ok tree') : Extends tree tree' := by
  obtain ⟨q, location, hlocate, rfl⟩ := makeDirectory_eq_ok h
  have hfree : tree.node? location = none := (locate_node hlocate).symm
  refine ⟨rfl, ?_⟩
  intro other node hnode
  have hne : location ≠ other := by
    rintro rfl
    rw [hfree] at hnode
    cases hnode
  have hroot : location ≠ [] := by
    rintro rfl
    cases hfree
  rw [node?_put tree location _ other hroot, if_neg hne, hnode]

/-- A walk that ends where something stands, or at a link. -/
def Walk.Finds : Walk → Prop
  | .arrived _ node => node.isSome
  | .atLink _ _ _ => True
  | .failed _ => False

/-- What a walk finds is found in a tree that holds more. -/
theorem Extends.walk_eq (h : Extends tree tree') {followLast : Bool} {here : Location}
    {steps : List String} (hfinds : (tree.walk followLast here steps).Finds) :
    tree'.walk followLast here steps = tree.walk followLast here steps := by
  induction steps generalizing here with
  | nil =>
    rw [walk] at hfinds
    obtain ⟨node, hnode⟩ := Option.isSome_iff_exists.mp hfinds
    rw [walk, walk, hnode, h.keeps here node hnode]
  | cons name rest ih =>
    rw [walk] at hfinds
    split at hfinds
    · exact hfinds.elim
    · rename_i hdirectory
      have hdirectory' := h.keeps here .directory (Decidable.not_not.mp hdirectory)
      rw [walk, walk, if_neg hdirectory, if_neg (not_not_intro hdirectory')]
      split at hfinds
      · rename_i hdot
        rw [if_pos hdot, if_pos hdot]
        exact ih hfinds
      · rename_i hdot
        rw [if_neg hdot, if_neg hdot]
        split at hfinds
        · rename_i hup
          rw [if_pos hup, if_pos hup]
          exact ih hfinds
        · rename_i hup
          rw [if_neg hup, if_neg hup]
          cases hnode : tree.node? (here ++ [name]) with
          | none =>
            rw [hnode] at hfinds
            cases rest <;> simp [Walk.Finds] at hfinds
          | some node =>
            rw [h.keeps _ node hnode]
            cases node with
            | link target => rfl
            | directory =>
              rw [hnode] at hfinds
              exact ih hfinds
            | file mode content =>
              rw [hnode] at hfinds
              exact ih hfinds

/-- What following steps leads to is found in a tree that holds more. -/
theorem Extends.follow_eq (h : Extends tree tree') {followLast : Bool} {links : Nat}
    {here location : Location} {steps : List String} {node : Node}
    (hfollow : tree.follow followLast links here steps = .ok (location, some node)) :
    tree'.follow followLast links here steps = .ok (location, some node) := by
  induction links generalizing here steps with
  | zero =>
    rw [follow] at hfollow ⊢
    split at hfollow
    · rename_i hwalk
      cases hfollow
      rw [h.walk_eq (hwalk ▸ rfl), hwalk]
    · cases hfollow
    · cases hfollow
  | succ links ih =>
    rw [follow] at hfollow ⊢
    split at hfollow
    · rename_i hwalk
      cases hfollow
      rw [h.walk_eq (hwalk ▸ rfl), hwalk]
    · cases hfollow
    · rename_i hwalk
      rw [h.walk_eq (hwalk ▸ trivial), hwalk]
      exact ih hfollow

/-- What exists where a path leads exists there in a tree that holds more. -/
theorem Extends.existing?_eq_ok (h : Extends tree tree') {location : Location} {node : Node}
    (hexisting : tree.existing? p = .ok (location, node)) :
    tree'.existing? p = .ok (location, node) := by
  rw [existing?] at hexisting
  split at hexisting
  · rename_i hlocate
    cases hexisting
    rw [locate] at hlocate
    rw [existing?, locate, h.current]
    split at hlocate
    · cases hlocate
    · rename_i htext
      rw [if_neg htext, h.follow_eq hlocate]
  · cases hexisting
  · cases hexisting

/-- A directory is one in a tree that holds more. -/
theorem Extends.isDirectory (h : Extends tree tree') (hdirectory : tree.isDirectory p = true) :
    tree'.isDirectory p = true := by
  obtain ⟨location, hfound⟩ := isDirectory_iff.mp hdirectory
  have hexisting := h.existing?_eq_ok (existing?_eq_ok_iff.mpr hfound)
  exact isDirectory_iff.mpr ⟨location, existing?_eq_ok_iff.mp hexisting⟩

/-- A file is read as before in a tree that holds more. -/
theorem Extends.fetch_eq (h : Extends tree tree') (hfile : tree.isFile p = true) :
    tree'.fetch p = tree.fetch p := by
  obtain ⟨location, mode, content, hfound⟩ := isFile_iff.mp hfile
  have hexisting := existing?_eq_ok_iff.mpr hfound
  rw [fetch, fetch, hexisting, h.existing?_eq_ok hexisting]

end LayeredConfig.FileTree
