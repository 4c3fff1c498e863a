import LayeredConfig.Proofs.Files.Walking

/-!
# Writing files changes no way

On its way a path meets directories and links; a file ends the way just as
nothing does. So where a file is written over a file or over nothing, every
path leads to the same place as before, and only what stands at one place is
new.
-/

namespace LayeredConfig.FileTree

variable {tree tree' : FileTree}

/-- What a way can go on from: files and nothing end it. -/
def onward : Option Node → Option Node
  | some (.file _ _) => none
  | node => node

/-- Two trees that offer the same ways: they differ in files at most. -/
structure SameWays (tree tree' : FileTree) : Prop where
  /-- One is at the same place. -/
  current : tree'.current = tree.current
  /-- The same directories and links stand at the same places. -/
  onward : ∀ location, FileTree.onward (tree'.node? location) =
    FileTree.onward (tree.node? location)

/-- Ways that are the same for a second tree and a third are the same for all. -/
theorem SameWays.trans {tree'' : FileTree} (h : SameWays tree tree') (h' : SameWays tree' tree'') :
    SameWays tree tree'' where
  current := h'.current.trans h.current
  onward := fun location => (h'.onward location).trans (h.onward location)

/-- A tree offers its own ways. -/
theorem SameWays.refl (tree : FileTree) : SameWays tree tree := ⟨rfl, fun _ => rfl⟩

/-- What goes on in the same way is the same, unless both end the way. -/
theorem onward_eq_cases {node node' : Option Node} (h : onward node' = onward node) :
    node' = node ∨ (onward node = none ∧ onward node' = none) := by
  cases node with
  | none => exact .inr ⟨rfl, h⟩
  | some node =>
    cases node with
    | file mode content => exact .inr ⟨rfl, h⟩
    | directory =>
      cases node' with
      | none => cases h
      | some node' => cases node' <;> simp_all [onward]
    | link target =>
      cases node' with
      | none => cases h
      | some node' => cases node' <;> simp_all [onward]

/-- Two walks end in the same way, whatever they found at the end. -/
def Walk.Alike : Walk → Walk → Prop
  | .arrived location _, .arrived location' _ => location = location'
  | .atLink directory target rest, .atLink directory' target' rest' =>
    directory = directory' ∧ target = target' ∧ rest = rest'
  | .failed _, .failed _ => True
  | _, _ => False

/-- A way ends where nothing or a file stands: the walk arrives there with its last step, and
fails with more steps. -/
theorem walk_of_blocked {followLast : Bool} {here : Location} {name : String}
    {rest : List String} (hhere : tree.node? here = some .directory) (hdot : name ≠ ".")
    (hup : name ≠ "..") (h : onward (tree.node? (here ++ [name])) = none) :
    (tree.walk followLast here (name :: rest)).Alike
      (if rest.isEmpty then .arrived (here ++ [name]) none else .failed .notFound) := by
  rw [walk, if_neg (not_not_intro hhere), if_neg hdot, if_neg hup]
  cases hnode : tree.node? (here ++ [name]) with
  | none => cases rest <;> simp [Walk.Alike]
  | some node =>
    cases node with
    | file mode content => cases rest <;> simp [walk, hnode, Walk.Alike]
    | directory =>
      rw [hnode] at h
      cases h
    | link target =>
      rw [hnode] at h
      cases h

/-- Walks that both end as a third one does end in the same way. -/
theorem Walk.Alike.trans_symm {walk walk' third : Walk} (h : walk.Alike third)
    (h' : walk'.Alike third) : walk.Alike walk' := by
  cases walk <;> cases walk' <;> cases third <;> simp_all [Walk.Alike]

/-- Where the ways are the same, walks end in the same way. -/
theorem walk_alike (h : SameWays tree tree') (followLast : Bool) (here : Location)
    (steps : List String) :
    (tree.walk followLast here steps).Alike (tree'.walk followLast here steps) := by
  induction steps generalizing here with
  | nil => exact rfl
  | cons name rest ih =>
    by_cases hhere : tree.node? here = some .directory
    · have hhere' : tree'.node? here = some .directory := by
        rcases onward_eq_cases (h.onward here) with hsame | ⟨hnone, -⟩
        · rw [hsame, hhere]
        · rw [hhere] at hnone
          cases hnone
      by_cases hdot : name = "."
      · rw [walk, walk, if_neg (not_not_intro hhere), if_neg (not_not_intro hhere'), if_pos hdot,
          if_pos hdot]
        exact ih here
      · by_cases hup : name = ".."
        · rw [walk, walk, if_neg (not_not_intro hhere), if_neg (not_not_intro hhere'), if_neg hdot,
            if_neg hdot, if_pos hup, if_pos hup]
          exact ih here.dropLast
        · rcases onward_eq_cases (h.onward (here ++ [name])) with hsame | ⟨hnone, hnone'⟩
          · rw [walk, walk, if_neg (not_not_intro hhere), if_neg (not_not_intro hhere'),
              if_neg hdot, if_neg hdot, if_neg hup, if_neg hup, hsame]
            split
            · split <;> simp [Walk.Alike]
            · split <;> simp [Walk.Alike]
            · exact ih (here ++ [name])
          · exact (walk_of_blocked hhere hdot hup hnone).trans_symm
              (walk_of_blocked hhere' hdot hup hnone')
    · have hhere' : tree'.node? here ≠ some .directory := by
        intro hd
        rcases onward_eq_cases (h.onward here) with hsame | ⟨-, hnone'⟩
        · exact hhere (hsame ▸ hd)
        · rw [hd] at hnone'
          cases hnone'
      rw [walk, walk, if_pos hhere, if_pos hhere']
      trivial

/-- Where the ways are the same, following steps leads to the same place. -/
theorem follow_alike (h : SameWays tree tree') (followLast : Bool) (links : Nat)
    (here : Location) (steps : List String) :
    (tree'.follow followLast links here steps).toOption.map Prod.fst =
      (tree.follow followLast links here steps).toOption.map Prod.fst := by
  induction links generalizing here steps with
  | zero =>
    have hwalk := walk_alike h followLast here steps
    rw [follow, follow]
    cases hw : tree.walk followLast here steps <;>
      cases hw' : tree'.walk followLast here steps <;>
      simp_all [Walk.Alike, Except.toOption]
  | succ links ih =>
    have hwalk := walk_alike h followLast here steps
    rw [follow, follow]
    cases hw : tree.walk followLast here steps <;>
      cases hw' : tree'.walk followLast here steps <;>
      simp_all [Walk.Alike, Except.toOption]

/-- Where the ways are the same, every path leads to the same place. -/
theorem SameWays.place? (h : SameWays tree tree') (p : Path) : tree'.place? p = tree.place? p := by
  have hplace : ∀ t : FileTree, t.place? p = (t.locate true p).toOption.map Prod.fst := by
    intro t
    rw [FileTree.place?]
    cases t.locate true p with
    | error e => rfl
    | ok found => rfl
  rw [hplace, hplace, locate, locate, h.current]
  split
  · rfl
  · exact follow_alike h true _ _ _

/-- A file put where nothing or a file stood leaves the ways the same. -/
theorem sameWays_put {location : Location} (h : onward (tree.node? location) = none) (mode : Nat)
    (content : ByteArray) : SameWays tree (tree.put location (.file mode content)) where
  current := rfl
  onward := by
    have hne : location ≠ [] := by
      intro he
      subst he
      cases h
    intro other
    rw [node?_put tree location _ other hne]
    split
    · rename_i he
      rw [← he, h]
      rfl
    · rfl

/-- Where the ways are the same, the same directories stand at the same places. -/
theorem SameWays.node?_eq_directory_iff (h : SameWays tree tree') {location : Location} :
    tree'.node? location = some .directory ↔ tree.node? location = some .directory := by
  constructor
  · intro hnode
    rcases onward_eq_cases (h.onward location) with hsame | ⟨-, hnone⟩
    · rwa [← hsame]
    · rw [hnode] at hnone
      cases hnone
  · intro hnode
    rcases onward_eq_cases (h.onward location) with hsame | ⟨hnone, -⟩
    · rwa [hsame]
    · rw [hnode] at hnone
      cases hnone

/-- Where the ways are the same, no link is new. -/
theorem SameWays.node?_ne_link (h : SameWays tree tree') {location : Location} {target : Path}
    (hlink : tree.node? location ≠ some (.link target)) :
    tree'.node? location ≠ some (.link target) := by
  intro hnode
  rcases onward_eq_cases (h.onward location) with hsame | ⟨-, hnone⟩
  · exact hlink (hsame ▸ hnode)
  · rw [hnode] at hnone
    cases hnone

/-- A path to a directory leads to it wherever the ways are the same. -/
theorem SameWays.existing?_directory (h : SameWays tree tree') {p : Path} {location : Location}
    (hexisting : tree.existing? p = .ok (location, .directory)) :
    tree'.existing? p = .ok (location, .directory) := by
  obtain ⟨hplace, hnode⟩ := existing?_eq_ok_iff.mp hexisting
  exact existing?_eq_ok_iff.mpr ⟨by rw [h.place?, hplace], h.node?_eq_directory_iff.mpr hnode⟩

/-- Where the ways are the same, the same paths lead to directories. -/
theorem SameWays.isDirectory (h : SameWays tree tree') (p : Path) :
    tree'.isDirectory p = tree.isDirectory p := by
  rw [Bool.eq_iff_iff, isDirectory_iff, isDirectory_iff]
  simp only [h.place?, h.node?_eq_directory_iff]

/-- One tree is another one with a file written where nothing or a file stood. -/
structure WritesFile (tree tree' : FileTree) (location : Location) (node : Node) : Prop where
  /-- Nothing or a file stood there. -/
  free : FileTree.onward (tree.node? location) = none
  /-- All paths lead where they led. -/
  ways : SameWays tree tree'
  /-- The file stands there, and everything else is as before. -/
  node? : ∀ other, tree'.node? other = if location = other then some node else tree.node? other

/-- Putting a file where nothing or a file stands writes it there. -/
theorem writesFile_put {location : Location} (h : onward (tree.node? location) = none)
    (mode : Nat) (content : ByteArray) :
    WritesFile tree (tree.put location (.file mode content)) location (.file mode content) where
  free := h
  ways := sameWays_put h mode content
  node? := by
    intro other
    refine node?_put tree location _ other ?_
    intro he
    subst he
    cases h

/-- A stored content is written to the place of the path. -/
theorem store_eq_ok {p : Path} {content : ByteArray} (h : tree.store p content = .ok tree') :
    ∃ location mode, tree.place? p = some location ∧
      WritesFile tree tree' location (.file mode content) := by
  rw [store] at h
  split at h
  · rename_i location hlocate
    cases h
    obtain ⟨hplace, hnode⟩ := locate_eq_ok_iff.mp hlocate
    exact ⟨location, newFileMode, hplace, writesFile_put (by rw [← hnode]; rfl) _ _⟩
  · rename_i location mode old hlocate
    cases h
    obtain ⟨hplace, hnode⟩ := locate_eq_ok_iff.mp hlocate
    exact ⟨location, mode, hplace, writesFile_put (by rw [← hnode]; rfl) _ _⟩
  · cases h
  · cases h
  · cases h

/-- A file can be written under a path: it leads to a place where nothing or a file stands. -/
def TakesFile (tree : FileTree) (p : Path) : Prop :=
  ∃ location, tree.place? p = some location ∧ onward (tree.node? location) = none

/-- Where the ways are the same, files can be written under the same paths. -/
theorem SameWays.takesFile_iff (h : SameWays tree tree') {p : Path} :
    tree'.TakesFile p ↔ tree.TakesFile p := by
  simp only [TakesFile, h.place?, h.onward]

/-- A content is not stored only where no file can be written. -/
theorem not_takesFile_of_store {p : Path} {content : ByteArray} {e : FileError}
    (h : tree.store p content = .error e) : ¬ tree.TakesFile p := by
  rintro ⟨location, hplace, hfree⟩
  rw [store, locate_eq_ok_iff.mpr ⟨hplace, rfl⟩] at h
  cases hnode : tree.node? location with
  | none =>
    rw [hnode] at h
    cases h
  | some node =>
    rw [hnode] at h hfree
    cases node with
    | file mode old => cases h
    | directory => cases hfree
    | link target => cases hfree

/-- Where a file stands, setting its permission bits writes it again under the new ones. -/
theorem setMode_eq_ok {p : Path} {location : Location} {mode old : Nat} {content : ByteArray}
    (hplace : tree.place? p = some location)
    (hnode : tree.node? location = some (.file old content))
    (h : tree.setMode p mode = .ok tree') :
    WritesFile tree tree' location (.file mode content) := by
  rw [setMode, existing?_eq_ok_iff.mpr ⟨hplace, hnode⟩] at h
  cases h
  exact writesFile_put (by rw [hnode]; rfl) _ _

/-- Of two files written at one place the second stands. -/
theorem WritesFile.trans {tree'' : FileTree} {location : Location} {node node' : Node}
    (h : WritesFile tree tree' location node) (h' : WritesFile tree' tree'' location node') :
    WritesFile tree tree'' location node' where
  free := h.free
  ways := h.ways.trans h'.ways
  node? := by
    intro other
    rw [h'.node?, h.node?]
    split <;> rfl

/-- Two trees differ in files alone, and only at given places. -/
structure ChangesFiles (places : Location → Prop) (tree tree' : FileTree) : Prop where
  /-- Directories and links stand where they stood. -/
  ways : SameWays tree tree'
  /-- What is new is a file at one of the places. -/
  node? : ∀ location, tree'.node? location = tree.node? location ∨
    places location ∧ ∃ mode content, tree'.node? location = some (.file mode content)

/-- A tree does not differ from itself. -/
theorem ChangesFiles.refl (places : Location → Prop) (tree : FileTree) :
    ChangesFiles places tree tree := ⟨.refl tree, fun _ => .inl rfl⟩

/-- Differences one after the other are differences at the places of both. -/
theorem ChangesFiles.trans {places : Location → Prop} {tree'' : FileTree}
    (h : ChangesFiles places tree tree') (h' : ChangesFiles places tree' tree'') :
    ChangesFiles places tree tree'' where
  ways := h.ways.trans h'.ways
  node? := by
    intro location
    rcases h'.node? location with hsame | hnew
    · rw [hsame]
      exact h.node? location
    · exact .inr hnew

/-- Differences at some places are differences at more places. -/
theorem ChangesFiles.mono {places more : Location → Prop} (h : ChangesFiles places tree tree')
    (hmore : ∀ location, places location → more location) : ChangesFiles more tree tree' where
  ways := h.ways
  node? := fun location => (h.node? location).imp_right fun hnew => ⟨hmore location hnew.1, hnew.2⟩

/-- A file written at one of the places is a difference there. -/
theorem WritesFile.changesFiles {places : Location → Prop} {location : Location} {mode : Nat}
    {content : ByteArray} (h : WritesFile tree tree' location (.file mode content))
    (hplace : places location) : ChangesFiles places tree tree' where
  ways := h.ways
  node? := by
    intro other
    rw [h.node?]
    split
    · rename_i he
      exact .inr ⟨he ▸ hplace, mode, content, rfl⟩
    · exact .inl rfl

/-- A path leads to a file with permission bits and content. -/
def Holds (tree : FileTree) (p : Path) (mode : Nat) (content : ByteArray) : Prop :=
  ∃ location, tree.existing? p = .ok (location, .file mode content)

/-- A path leads to a file with permission bits and content exactly when that file stands at its
place. -/
theorem holds_iff {p : Path} {location : Location} {mode : Nat} {content : ByteArray}
    (hplace : tree.place? p = some location) :
    tree.Holds p mode content ↔ tree.node? location = some (.file mode content) := by
  constructor
  · rintro ⟨location', hexisting⟩
    obtain ⟨hplace', hnode⟩ := existing?_eq_ok_iff.mp hexisting
    rw [hplace] at hplace'
    cases hplace'
    exact hnode
  · intro hnode
    exact ⟨location, existing?_eq_ok_iff.mpr ⟨hplace, hnode⟩⟩

/-- Content is fetched as before unless it was written anew. -/
theorem WritesFile.fetch_eq_ok_iff {location : Location} {node : Node} {p : Path}
    {content : ByteArray} (h : WritesFile tree tree' location node)
    (hp : tree.place? p ≠ some location) :
    tree'.fetch p = .ok content ↔ tree.fetch p = .ok content := by
  rw [FileTree.fetch_eq_ok_iff, FileTree.fetch_eq_ok_iff]
  constructor
  · rintro ⟨other, mode, hplace, hnode⟩
    rw [h.ways.place?] at hplace
    have hne : location ≠ other := fun he => hp (he ▸ hplace)
    rw [h.node?, if_neg hne] at hnode
    exact ⟨other, mode, hplace, hnode⟩
  · rintro ⟨other, mode, hplace, hnode⟩
    have hne : location ≠ other := fun he => hp (he ▸ hplace)
    refine ⟨other, mode, ?_, ?_⟩
    · rw [h.ways.place?, hplace]
    · rw [h.node?, if_neg hne, hnode]

end LayeredConfig.FileTree
