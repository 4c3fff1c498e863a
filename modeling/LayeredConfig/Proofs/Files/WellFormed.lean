import LayeredConfig.Proofs.Files.Changes
import LayeredConfig.Proofs.Lookup

/-!
# Names that occur in a file tree

In a well-formed tree every name on the way to a node is the name of an entry:
no slash, no step. The steps of written paths and of links have this form, so
every operation that puts a node where a path leads keeps a tree well-formed.
-/

namespace LayeredConfig

/-- A step of a path is not empty and has no slash. -/
theorem Path.of_mem_steps {p : Path} {name : String} (h : name ∈ p.steps) :
    name ≠ "" ∧ '/' ∉ name.toList := by
  have hparts : ∀ {part}, part ∈ p.namedParts → part ≠ "" ∧ '/' ∉ part.toList := by
    intro part hpart
    obtain ⟨hmem, hne⟩ := List.mem_filter.mp hpart
    exact ⟨by simpa using hne, slash_not_mem_of_mem_parts hmem⟩
  rcases p.steps_eq with hsteps | hsteps
  · exact hparts (hsteps ▸ h)
  · rw [hsteps] at h
    rcases List.mem_append.mp h with h | h
    · exact hparts h
    · rw [List.mem_singleton] at h
      subst h
      decide

/-- Every name of a location is the name of an entry. -/
def Location.IsProper (location : Location) : Prop := ∀ name ∈ location, IsEntryName name

namespace FileTree

/-- All nodes of a tree, and the current directory, stand at locations made of entry names. -/
structure IsWellFormed (tree : FileTree) : Prop where
  /-- Every node stands at a proper location. -/
  nodes : ∀ location, (tree.node? location).isSome → location.IsProper
  /-- One is at a proper location. -/
  current : tree.current.IsProper

/-- No link stands anywhere in a tree. -/
def IsLinkFree (tree : FileTree) : Prop :=
  ∀ location target, tree.node? location ≠ some (.link target)

variable {tree tree' : FileTree} {followLast : Bool} {here location : Location}
  {steps : List String}

/-- A proper location stays proper with the name of an entry. -/
theorem isProper_append {name : String} (h : here.IsProper) (hname : IsEntryName name) :
    (here ++ [name]).IsProper := by
  intro other hmem
  rcases List.mem_append.mp hmem with hmem | hmem
  · exact h other hmem
  · rw [List.mem_singleton] at hmem
    exact hmem ▸ hname

/-- A walk arrives at a proper location, or stops at a link in one with some of its steps left. -/
def Walk.IsProper (steps : List String) : Walk → Prop
  | .arrived location _ => location.IsProper
  | .atLink directory _ rest => directory.IsProper ∧ rest ⊆ steps
  | .failed _ => True

/-- Some of the steps are some of more steps. -/
theorem Walk.IsProper.mono {more : List String} {walk : Walk} (h : walk.IsProper steps)
    (hsteps : steps ⊆ more) : walk.IsProper more := by
  cases walk with
  | arrived location node => exact h
  | atLink directory target rest => exact ⟨h.1, List.Subset.trans h.2 hsteps⟩
  | failed e => trivial

/-- A walk from a proper location stays proper. -/
theorem walk_isProper (hhere : here.IsProper)
    (hsteps : ∀ name ∈ steps, name ≠ "" ∧ '/' ∉ name.toList) :
    (tree.walk followLast here steps).IsProper steps := by
  induction steps generalizing here with
  | nil => exact hhere
  | cons name rest ih =>
    obtain ⟨hne, hslash⟩ := hsteps name List.mem_cons_self
    have hon : ∀ {start : Location}, start.IsProper →
        (tree.walk followLast start rest).IsProper (name :: rest) := by
      intro start hstart
      have hrest := ih hstart fun other hmem => hsteps other (List.mem_cons_of_mem _ hmem)
      exact hrest.mono (List.subset_cons_self _ _)
    rw [walk]
    split
    · trivial
    · split
      · exact hon hhere
      · rename_i hdot
        split
        · exact hon fun other hmem => hhere other (List.dropLast_subset _ hmem)
        · rename_i hup
          have hnext : (here ++ [name]).IsProper := isProper_append hhere ⟨hne, hdot, hup, hslash⟩
          split
          · split
            · exact hnext
            · trivial
          · split
            · exact hnext
            · exact ⟨hhere, List.subset_cons_self _ _⟩
          · exact hon hnext

/-- Following steps from a proper location leads to one. -/
theorem follow_isProper {links : Nat} {node : Option Node} (hhere : here.IsProper)
    (hsteps : ∀ name ∈ steps, name ≠ "" ∧ '/' ∉ name.toList)
    (h : tree.follow followLast links here steps = .ok (location, node)) :
    location.IsProper := by
  induction links generalizing here steps with
  | zero =>
    have hwalk : (tree.walk followLast here steps).IsProper steps := walk_isProper hhere hsteps
    rw [follow] at h
    split at h
    · rename_i harrived
      rw [harrived] at hwalk
      cases h
      exact hwalk
    · cases h
    · cases h
  | succ links ih =>
    have hwalk : (tree.walk followLast here steps).IsProper steps := walk_isProper hhere hsteps
    rw [follow] at h
    split at h
    · rename_i harrived
      rw [harrived] at hwalk
      cases h
      exact hwalk
    · cases h
    · rename_i directory target rest hlink
      rw [hlink] at hwalk
      refine ih ?_ ?_ h
      · rw [Path.origin]
        split
        · exact fun name hmem => absurd hmem List.not_mem_nil
        · exact hwalk.1
      · intro name hmem
        rcases List.mem_append.mp hmem with hmem | hmem
        · exact Path.of_mem_steps hmem
        · exact hsteps name (hwalk.2 hmem)

/-- A path leads to a proper location if one is at a proper location. -/
theorem locate_isProper {p : Path} {node : Option Node} (hcurrent : tree.current.IsProper)
    (h : tree.locate followLast p = .ok (location, node)) : location.IsProper := by
  rw [locate] at h
  split at h
  · cases h
  · refine follow_isProper ?_ (fun name hmem => Path.of_mem_steps hmem) h
    rw [Path.origin]
    split
    · exact fun name hmem => absurd hmem List.not_mem_nil
    · exact hcurrent

/-- Only the names in the keys of the nodes and on the way to the current directory count. -/
theorem isWellFormed_iff :
    tree.IsWellFormed ↔
      (∀ location ∈ tree.nodes.keys, location.IsProper) ∧ tree.current.IsProper := by
  constructor
  · intro h
    refine ⟨fun location hmem => ?_, h.current⟩
    cases location with
    | nil => exact fun name hname => absurd hname List.not_mem_nil
    | cons part rest => exact h.nodes (part :: rest) (SortedMap.mem_keys_iff.mp hmem)
  · rintro ⟨hkeys, hcurrent⟩
    refine ⟨fun location hsome => ?_, hcurrent⟩
    cases location with
    | nil => exact fun name hname => absurd hname List.not_mem_nil
    | cons part rest => exact hkeys (part :: rest) (SortedMap.mem_keys_iff.mpr hsome)

instance : Decidable tree.IsWellFormed :=
  decidable_of_iff ((∀ location ∈ tree.nodes.keys, ∀ name ∈ location, IsEntryName name) ∧
    ∀ name ∈ tree.current, IsEntryName name) isWellFormed_iff.symm

/-- A link stands at the location. -/
def hasLinkAt (tree : FileTree) (location : Location) : Bool :=
  match tree.node? location with
  | some (.link _) => true
  | _ => false

/-- Only what stands at the keys of the nodes counts. -/
theorem isLinkFree_iff :
    tree.IsLinkFree ↔ ∀ location ∈ tree.nodes.keys, tree.hasLinkAt location = false := by
  constructor
  · intro h location hmem
    rw [hasLinkAt]
    split
    · rename_i target hlink
      exact absurd hlink (h location target)
    · rfl
  · intro h location target hlink
    cases location with
    | nil => cases hlink
    | cons part rest =>
      have hfound : tree.nodes.get? (part :: rest) = some (.link target) := hlink
      have hsome : (tree.nodes.get? (part :: rest)).isSome := by
        rw [hfound]
        rfl
      have hfree := h _ (SortedMap.mem_keys_iff.mpr hsome)
      rw [hasLinkAt, hlink] at hfree
      cases hfree

instance : Decidable tree.IsLinkFree :=
  decidable_of_iff (∀ location ∈ tree.nodes.keys, tree.hasLinkAt location = false)
    isLinkFree_iff.symm

section Operations

/-- The tree that holds nothing is well-formed. -/
theorem isWellFormed_empty : empty.IsWellFormed where
  nodes := by
    intro location hsome
    cases location with
    | nil => exact fun name hmem => absurd hmem List.not_mem_nil
    | cons part rest => cases hsome
  current := fun name hmem => absurd hmem List.not_mem_nil

/-- A node may be put at a proper location. -/
theorem isWellFormed_put (h : tree.IsWellFormed) (hlocation : location.IsProper) (node : Node) :
    (tree.put location node).IsWellFormed where
  nodes := by
    intro other hsome
    cases other with
    | nil => exact fun name hmem => absurd hmem List.not_mem_nil
    | cons part rest =>
      have hget : ((tree.put location node).node? (part :: rest)) =
          if location = part :: rest then some node else tree.node? (part :: rest) :=
        SortedMap.get?_insert tree.nodes location node (part :: rest)
      rw [hget] at hsome
      split at hsome
      · rename_i he
        exact he ▸ hlocation
      · exact h.nodes _ hsome
  current := h.current

/-- Taking a location away leaves a tree well-formed. -/
theorem isWellFormed_cut (h : tree.IsWellFormed) (location : Location) :
    (tree.cut location).IsWellFormed where
  nodes := by
    intro other hsome
    rw [node?_cut] at hsome
    split at hsome
    · cases hsome
    · exact h.nodes other hsome
  current := h.current

/-- Putting a node where a path leads keeps a tree well-formed. -/
theorem isWellFormed_puts (h : tree.IsWellFormed) (hputs : Puts tree tree') :
    tree'.IsWellFormed := by
  cases hputs with
  | nothing => exact h
  | node new hlocate _ => exact isWellFormed_put h (locate_isProper h.current hlocate) new

variable {p : Path}

/-- Removing keeps a tree well-formed. -/
theorem isWellFormed_removeAll (h : tree.IsWellFormed)
    (hremove : tree.removeAll p = .ok tree') : tree'.IsWellFormed := by
  rw [removeAll] at hremove
  split at hremove
  · cases hremove
    exact isWellFormed_cut h _
  · cases hremove
  · cases hremove

/-- Going into a directory keeps a tree well-formed. -/
theorem isWellFormed_enter (h : tree.IsWellFormed)
    (henter : tree.existing? p = .ok (location, .directory)) :
    IsWellFormed { tree with current := location } where
  nodes := h.nodes
  current := by
    have hlocate := locate_eq_ok_iff.mpr ⟨(existing?_eq_ok_iff.mp henter).1, rfl⟩
    exact locate_isProper h.current hlocate

end Operations

/-- A tree comes about from the empty one by the operations on files and directories. -/
inductive Arises : FileTree → Prop
  /-- The tree that holds nothing. -/
  | empty : Arises empty
  /-- A file is written. -/
  | store {tree tree' : FileTree} {p : Path} {content : ByteArray} : Arises tree →
      tree.store p content = .ok tree' → Arises tree'
  /-- Permission bits are set. -/
  | setMode {tree tree' : FileTree} {p : Path} {mode : Nat} : Arises tree →
      tree.setMode p mode = .ok tree' → Arises tree'
  /-- A directory is made with its missing ancestors, or as many of them as can be made. -/
  | makeAllDirectories {tree : FileTree} (p : Path) : Arises tree →
      Arises (tree.makeAllDirectories p).1
  /-- A temporary directory is made. -/
  | makeTemporary {tree tree' : FileTree} {inside made : Path} {stem : String} : Arises tree →
      tree.makeTemporary inside stem = .ok (tree', made) → Arises tree'
  /-- A link is made. -/
  | makeLink {tree tree' : FileTree} {p target : Path} : Arises tree →
      tree.makeLink p target = .ok tree' → Arises tree'
  /-- Something is removed. -/
  | removeAll {tree tree' : FileTree} {p : Path} : Arises tree →
      tree.removeAll p = .ok tree' → Arises tree'
  /-- One goes into a directory. -/
  | enter {tree : FileTree} {p : Path} {location : Location} : Arises tree →
      tree.existing? p = .ok (location, .directory) → Arises { tree with current := location }

/-- Every tree that operations make is well-formed. -/
theorem Arises.isWellFormed (h : Arises tree) : tree.IsWellFormed := by
  induction h with
  | empty => exact isWellFormed_empty
  | store _ hstore ih => exact isWellFormed_puts ih (puts_of_store hstore)
  | setMode _ hset ih => exact isWellFormed_puts ih (puts_of_setMode hset)
  | makeAllDirectories p _ ih =>
    exact makeAllDirectories_induction
      (fun hbefore hone => isWellFormed_puts hbefore (puts_of_makeDirectory hone)) ih
  | makeTemporary _ hmake ih =>
    exact isWellFormed_puts ih (puts_of_makeDirectory (makeTemporary_eq_ok hmake))
  | makeLink _ hmake ih => exact isWellFormed_puts ih (puts_of_makeLink hmake)
  | removeAll _ hremove ih => exact isWellFormed_removeAll ih hremove
  | enter _ henter ih => exact isWellFormed_enter ih henter

end FileTree

end LayeredConfig
