import LayeredConfig.Files.Access
import LayeredConfig.Proofs.Files.Names

/-!
# Where paths lead

A path that leads somewhere leads to one place, and every operation looks only
at what stands there. Steps behind a directory are taken from that directory,
with the links that are still allowed. Writing a file changes what stands at
its place, but not where any path leads.
-/

namespace LayeredConfig.FileTree

/-- The place that a path leads to, whether something stands there or not. -/
def place? (tree : FileTree) (p : Path) : Option Location :=
  match tree.locate true p with
  | .ok (location, _) => some location
  | .error _ => none

section Results

variable {tree : FileTree} {followLast : Bool} {here location : Location} {node : Option Node}
  {steps : List String}

/-- A walk reports what stands where it arrives. -/
theorem walk_node (h : tree.walk followLast here steps = .arrived location node) :
    node = tree.node? location := by
  induction steps generalizing here with
  | nil =>
    rw [walk] at h
    cases h
    rfl
  | cons name rest ih =>
    rw [walk] at h
    split at h
    · cases h
    · split at h
      · exact ih h
      · split at h
        · exact ih h
        · split at h
          · rename_i hnone
            split at h
            · cases h
              exact hnone.symm
            · cases h
          · rename_i target hlink
            split at h
            · cases h
              exact hlink.symm
            · cases h
          · exact ih h

/-- Following reports what stands where it arrives. -/
theorem follow_node {links : Nat}
    (h : tree.follow followLast links here steps = .ok (location, node)) :
    node = tree.node? location := by
  induction links generalizing here steps with
  | zero =>
    rw [follow] at h
    split at h
    · rename_i hwalk
      cases h
      exact walk_node hwalk
    · cases h
    · cases h
  | succ links ih =>
    rw [follow] at h
    split at h
    · rename_i hwalk
      cases h
      exact walk_node hwalk
    · cases h
    · exact ih h

/-- A path leads to a place with what stands there. -/
theorem locate_eq_ok_iff {p : Path} :
    tree.locate true p = .ok (location, node) ↔
      tree.place? p = some location ∧ node = tree.node? location := by
  rw [place?]
  cases h : tree.locate true p with
  | error e => simp
  | ok found =>
    obtain ⟨location', node'⟩ := found
    have hnode : node' = tree.node? location' := by
      rw [locate] at h
      split at h
      · cases h
      · exact follow_node h
    subst hnode
    constructor
    · intro he
      cases he
      exact ⟨rfl, rfl⟩
    · rintro ⟨hl, rfl⟩
      cases hl
      rfl

end Results

section Steps

variable {tree : FileTree} {more : List String}

/-- More steps are walked from where the first ones arrive; a link on the way is followed
before. -/
theorem walk_append (followLast : Bool) (here : Location) (steps : List String)
    (hmore : more ≠ []) :
    tree.walk followLast here (steps ++ more) =
      match tree.walk true here steps with
      | .arrived location _ => tree.walk followLast location more
      | .atLink directory target rest => .atLink directory target (rest ++ more)
      | .failed e => .failed e := by
  induction steps generalizing here with
  | nil => rw [walk, List.nil_append]
  | cons name rest ih =>
    rw [List.cons_append, walk, walk]
    split
    · rfl
    · split
      · exact ih here
      · split
        · exact ih here.dropLast
        · cases hnode : tree.node? (here ++ [name]) with
          | none =>
            -- nothing stands there, so neither walk gets any further
            have hempty : (rest ++ more).isEmpty = false := by simp [hmore]
            obtain ⟨first, others, rfl⟩ := List.exists_cons_of_ne_nil hmore
            cases rest with
            | nil => simp [walk, hnode]
            | cons next rest => simp
          | some node =>
            cases node with
            | link target =>
              have hempty : (rest ++ more).isEmpty = false := by simp [hmore]
              simp [hempty]
            | directory => exact ih (here ++ [name])
            | file mode content => exact ih (here ++ [name])

/-- More steps are followed from where the first ones arrive, with the links that are left. -/
theorem follow_append {links : Nat} {here location : Location} {steps : List String}
    {node : Option Node} (h : tree.follow true links here steps = .ok (location, node)) :
    ∃ left, ∀ followLast more, more ≠ [] →
      tree.follow followLast links here (steps ++ more) =
        tree.follow followLast left location more := by
  induction links generalizing here steps with
  | zero =>
    rw [follow] at h
    split at h
    · rename_i hwalk
      cases h
      refine ⟨0, fun followLast more hmore => ?_⟩
      rw [follow, walk_append followLast here steps hmore, hwalk, follow]
    · cases h
    · cases h
  | succ links ih =>
    rw [follow] at h
    split at h
    · rename_i hwalk
      cases h
      refine ⟨links + 1, fun followLast more hmore => ?_⟩
      rw [follow, walk_append followLast here steps hmore, hwalk, follow]
    · cases h
    · rename_i directory target rest hwalk
      obtain ⟨left, hleft⟩ := ih h
      refine ⟨left, fun followLast more hmore => ?_⟩
      rw [follow, walk_append followLast here steps hmore, hwalk]
      simp only [← List.append_assoc]
      exact hleft followLast more hmore

/-- Steps that cannot be followed cannot be followed further. -/
theorem follow_append_of_error {links : Nat} {here : Location} {steps : List String}
    {e : FileError} (h : tree.follow true links here steps = .error e) (followLast : Bool)
    (hmore : more ≠ []) : tree.follow followLast links here (steps ++ more) = .error e := by
  induction links generalizing here steps with
  | zero =>
    rw [follow] at h
    rw [follow, walk_append followLast here steps hmore]
    split at h
    · cases h
    · rename_i hwalk
      rw [hwalk]
      exact h
    · rename_i hwalk
      rw [hwalk]
      exact h
  | succ links ih =>
    rw [follow] at h
    rw [follow, walk_append followLast here steps hmore]
    split at h
    · cases h
    · rename_i hwalk
      rw [hwalk]
      exact h
    · rename_i hwalk
      rw [hwalk]
      simp only [← List.append_assoc]
      exact ih h

/-- A step to where one is leads on only from a directory, and stays there. -/
theorem follow_of_dot {links : Nat} {here location : Location} {steps : List String}
    {node : Option Node}
    (h : tree.follow true links here (steps ++ ["."]) = .ok (location, node)) :
    tree.follow true links here steps = .ok (location, some .directory) := by
  cases hsteps : tree.follow true links here steps with
  | error e =>
    rw [follow_append_of_error hsteps true (by simp)] at h
    cases h
  | ok found =>
    obtain ⟨location', node'⟩ := found
    obtain ⟨left, hleft⟩ := follow_append hsteps
    rw [hleft true ["."] (by simp)] at h
    by_cases hdirectory : tree.node? location' = some .directory
    · have hwalk : tree.walk true location' ["."] = .arrived location' (some .directory) := by
        simp [walk, hdirectory]
      rw [follow, hwalk] at h
      cases h
      rw [follow_node hsteps, hdirectory]
    · have hwalk : ∃ e, tree.walk true location' ["."] = .failed e := by
        simp [walk, hdirectory]
      obtain ⟨e, hwalk⟩ := hwalk
      rw [follow, hwalk] at h
      cases h

end Steps

section Operations

variable {tree : FileTree} {p : Path} {location : Location}

/-- Something exists where a path leads exactly when it stands there. -/
theorem existing?_eq_ok_iff {node : Node} :
    tree.existing? p = .ok (location, node) ↔
      tree.place? p = some location ∧ tree.node? location = some node := by
  rw [existing?]
  constructor
  · intro h
    split at h
    · rename_i hlocate
      cases h
      obtain ⟨hplace, hnode⟩ := locate_eq_ok_iff.mp hlocate
      exact ⟨hplace, hnode.symm⟩
    · cases h
    · cases h
  · rintro ⟨hplace, hnode⟩
    rw [locate_eq_ok_iff.mpr ⟨hplace, hnode.symm⟩]

/-- A path leads to a file exactly when a file stands at its place. -/
theorem isFile_iff :
    tree.isFile p = true ↔
      ∃ location mode content, tree.place? p = some location ∧
        tree.node? location = some (.file mode content) := by
  rw [isFile]
  constructor
  · intro h
    split at h
    · rename_i location mode content hlocate
      obtain ⟨hplace, hnode⟩ := locate_eq_ok_iff.mp hlocate
      exact ⟨location, mode, content, hplace, hnode.symm⟩
    · cases h
  · rintro ⟨location, mode, content, hplace, hnode⟩
    rw [locate_eq_ok_iff.mpr ⟨hplace, hnode.symm⟩]

/-- A path leads to a directory exactly when one stands at its place. -/
theorem isDirectory_iff :
    tree.isDirectory p = true ↔
      ∃ location, tree.place? p = some location ∧
        tree.node? location = some .directory := by
  rw [isDirectory]
  constructor
  · intro h
    split at h
    · rename_i location hlocate
      obtain ⟨hplace, hnode⟩ := locate_eq_ok_iff.mp hlocate
      exact ⟨location, hplace, hnode.symm⟩
    · cases h
  · rintro ⟨location, hplace, hnode⟩
    rw [locate_eq_ok_iff.mpr ⟨hplace, hnode.symm⟩]

/-- The content of a file is what stands at the place of the path. -/
theorem fetch_eq_ok_iff {content : ByteArray} :
    tree.fetch p = .ok content ↔
      ∃ location mode, tree.place? p = some location ∧
        tree.node? location = some (.file mode content) := by
  rw [fetch]
  constructor
  · intro h
    split at h
    · rename_i location mode content hexisting
      cases h
      exact ⟨location, mode, existing?_eq_ok_iff.mp hexisting⟩
    · cases h
    · cases h
    · cases h
  · rintro ⟨location, mode, hfile⟩
    rw [existing?_eq_ok_iff.mpr hfile]

/-- A path to a directory takes its named parts from where it starts. -/
theorem follow_namedParts (h : tree.existing? p = .ok (location, .directory)) :
    p.text ≠ "" ∧ tree.follow true maxLinks (p.origin tree.current) p.namedParts =
      .ok (location, some .directory) := by
  obtain ⟨hplace, hnode⟩ := existing?_eq_ok_iff.mp h
  have hlocate := locate_eq_ok_iff.mpr ⟨hplace, hnode.symm⟩
  rw [locate] at hlocate
  split at hlocate
  · cases hlocate
  · rename_i htext
    refine ⟨htext, ?_⟩
    rcases p.steps_eq with hsteps | hsteps
    · rwa [hsteps] at hlocate
    · rw [hsteps] at hlocate
      exact follow_of_dot hlocate

/-- A path to a directory continued by a name leads where a step from there leads. -/
theorem place?_join_of_walk {name : String} {found : Location} {node : Option Node}
    (h : tree.existing? p = .ok (location, .directory)) (hne : name ≠ "")
    (hslash : '/' ∉ name.toList) (hwalk : tree.walk true location [name] = .arrived found node) :
    tree.place? (p.join name) = some found := by
  obtain ⟨htext, hfollow⟩ := follow_namedParts h
  obtain ⟨left, hleft⟩ := follow_append hfollow
  have horigin : (p.join name).origin tree.current = p.origin tree.current := by
    rw [Path.origin, Path.origin, Path.isAbsolute_join p hslash htext]
  have hlocate : tree.locate true (p.join name) = .ok (found, node) := by
    rw [locate, if_neg (Path.text_join_ne_empty p hslash htext), horigin,
      Path.steps_join p hne hslash, hleft true [name] (by simp), follow, hwalk]
  exact (locate_eq_ok_iff.mp hlocate).1

/-- A path to a directory continued by the name of an entry leads to the entry, unless that is
a link. -/
theorem place?_join {name : String} (h : tree.existing? p = .ok (location, .directory))
    (hname : IsEntryName name)
    (hlink : ∀ target, tree.node? (location ++ [name]) ≠ some (.link target)) :
    tree.place? (p.join name) = some (location ++ [name]) := by
  obtain ⟨hne, hdot, hup, hslash⟩ := hname
  obtain ⟨-, hnode⟩ := existing?_eq_ok_iff.mp h
  have hwalk : tree.walk true location [name] =
      .arrived (location ++ [name]) (tree.node? (location ++ [name])) := by
    rw [walk, if_neg (not_not_intro hnode), if_neg hdot, if_neg hup]
    cases hentry : tree.node? (location ++ [name]) with
    | none => rfl
    | some node =>
      cases node with
      | link target => exact absurd hentry (hlink target)
      | directory => rw [walk, hentry]
      | file mode content => rw [walk, hentry]
  exact place?_join_of_walk h hne hslash hwalk

/-- A path to a directory continued by what is no name of an entry leads to the directory itself
or to the one above it. -/
theorem place?_join_of_not_isEntryName {name : String} {found : Location}
    (h : tree.existing? p = .ok (location, .directory)) (hslash : '/' ∉ name.toList)
    (hname : ¬ IsEntryName name) (hfound : tree.place? (p.join name) = some found) :
    found = location ∨ found = location.dropLast := by
  obtain ⟨-, hnode⟩ := existing?_eq_ok_iff.mp h
  by_cases hne : name = ""
  · -- the path ends in a slash now, which leads nowhere else
    subst hne
    obtain ⟨htext, hfollow⟩ := follow_namedParts h
    have hparts : (p.join "").namedParts = p.namedParts := by
      rw [Path.namedParts_join p hslash]
      simp
    have horigin : (p.join "").origin tree.current = p.origin tree.current := by
      rw [Path.origin, Path.origin, Path.isAbsolute_join p hslash htext]
    have hlocate := locate_eq_ok_iff.mpr ⟨hfound, rfl⟩
    rw [locate, if_neg (Path.text_join_ne_empty p hslash htext), horigin] at hlocate
    left
    rcases (p.join "").steps_eq with hsteps | hsteps
    · rw [hsteps, hparts, hfollow] at hlocate
      exact (Prod.mk.inj (Except.ok.inj hlocate)).1.symm
    · rw [hsteps, hparts] at hlocate
      have hdot := follow_of_dot hlocate
      rw [hfollow] at hdot
      cases hdot
      rfl
  · by_cases hdot : name = "."
    · have hwalk : tree.walk true location [name] = .arrived location (tree.node? location) := by
        rw [walk, if_neg (not_not_intro hnode), if_pos hdot, walk]
      rw [place?_join_of_walk h hne hslash hwalk] at hfound
      cases hfound
      exact .inl rfl
    · by_cases hup : name = ".."
      · have hwalk : tree.walk true location [name] =
            .arrived location.dropLast (tree.node? location.dropLast) := by
          rw [walk, if_neg (not_not_intro hnode), if_neg hdot, if_pos hup, walk]
        rw [place?_join_of_walk h hne hslash hwalk] at hfound
        cases hfound
        exact .inr rfl
      · exact absurd ⟨hne, hdot, hup, hslash⟩ hname

/-- A path to a directory continued by a name leads to an entry of the directory, to the
directory itself or to the one above it, unless the entry is a link. -/
theorem place?_join_cases {name : String} {found : Location}
    (h : tree.existing? p = .ok (location, .directory)) (hslash : '/' ∉ name.toList)
    (hlink : ∀ target, tree.node? (location ++ [name]) ≠ some (.link target))
    (hfound : tree.place? (p.join name) = some found) :
    found = location ++ [name] ∨ found = location ∨ found = location.dropLast := by
  by_cases hname : IsEntryName name
  · rw [place?_join h hname hlink] at hfound
    cases hfound
    exact .inl rfl
  · exact .inr (place?_join_of_not_isEntryName h hslash hname hfound)

end Operations

end LayeredConfig.FileTree
