import LayeredConfig.Configuration.Layer
import LayeredConfig.Proofs.Files.Walking
import LayeredConfig.Proofs.Lookup

/-!
# The files of a directory

A directory is listed in the order of the names, each name once. The regular
files among its entries, also through links, are what a scan for files finds.
-/

namespace LayeredConfig

namespace FileTree

variable {tree : FileTree}

/-- Two locations in one directory come in the order of their names. -/
theorem lt_of_append_lt {directory : Location} {name other : String}
    (h : directory ++ [name] < directory ++ [other]) : name < other := by
  induction directory with
  | nil =>
    rcases List.cons_lt_cons_iff.mp h with hlt | ⟨-, hlt⟩
    · exact hlt
    · exact absurd hlt (List.not_lt_nil _)
  | cons part rest ih =>
    rcases List.cons_lt_cons_iff.mp h with hlt | ⟨-, hlt⟩
    · exact absurd hlt (String.lt_irrefl part)
    · exact ih hlt

/-- The names below a location are those under which something stands there. -/
theorem mem_childNames_iff {directory : Location} {name : String} :
    name ∈ tree.childNames directory ↔ (tree.node? (directory ++ [name])).isSome := by
  have hnode : tree.node? (directory ++ [name]) = tree.nodes.get? (directory ++ [name]) := by
    cases directory with
    | nil => rfl
    | cons part rest => rfl
  rw [childNames, hnode, ← SortedMap.mem_keys_iff, List.mem_filterMap]
  constructor
  · rintro ⟨location, hmem, hname⟩
    rw [childName?_eq_some_iff] at hname
    rwa [← hname]
  · intro hmem
    exact ⟨directory ++ [name], hmem, childName?_eq_some_iff.mpr rfl⟩

/-- The names below a location ascend strictly. -/
theorem pairwise_childNames (tree : FileTree) (directory : Location) :
    (tree.childNames directory).Pairwise (· < ·) := by
  rw [childNames, List.pairwise_filterMap]
  refine tree.nodes.pairwise_keys.imp ?_
  intro location other hlt name hname name' hname'
  rw [childName?_eq_some_iff] at hname hname'
  subst hname hname'
  exact lt_of_append_lt hlt

/-- The names of the regular files directly in a directory, in ascending order. A path that
leads to no directory has none. -/
def fileNames (tree : FileTree) (directory : Path) : List String :=
  match tree.names directory with
  | .ok names => names.filter fun name => tree.isFile (directory.join name)
  | .error _ => []

/-- A regular file stands directly in a directory under a name. -/
def HasFile (tree : FileTree) (directory : Path) (name : String) : Prop :=
  ∃ location, tree.existing? directory = .ok (location, .directory) ∧
    (tree.node? (location ++ [name])).isSome ∧ tree.isFile (directory.join name) = true

/-- A path to a directory has the names below its place. -/
theorem names_of_existing {directory : Path} {location : Location}
    (h : tree.existing? directory = .ok (location, .directory)) :
    tree.names directory = .ok (tree.childNames location) := by
  rw [names, h]

/-- Names are listed only for a directory. -/
theorem names_eq_ok {directory : Path} {names : List String}
    (h : tree.names directory = .ok names) :
    ∃ location, tree.existing? directory = .ok (location, .directory) ∧
      names = tree.childNames location := by
  rw [FileTree.names] at h
  split at h
  · rename_i location hexisting
    cases h
    exact ⟨location, hexisting, rfl⟩
  · cases h
  · cases h

/-- The listed names are those of the files in the directory. -/
theorem mem_fileNames_iff {directory : Path} {name : String} :
    name ∈ tree.fileNames directory ↔ tree.HasFile directory name := by
  rw [fileNames, HasFile]
  constructor
  · intro hmem
    split at hmem
    · rename_i names hnames
      obtain ⟨location, hexisting, rfl⟩ := names_eq_ok hnames
      obtain ⟨hchild, hfile⟩ := List.mem_filter.mp hmem
      exact ⟨location, hexisting, mem_childNames_iff.mp hchild, hfile⟩
    · cases hmem
  · rintro ⟨location, hexisting, hsome, hfile⟩
    rw [names_of_existing hexisting]
    exact List.mem_filter.mpr ⟨mem_childNames_iff.mpr hsome, hfile⟩

/-- The names of the files of a directory ascend strictly. -/
theorem pairwise_fileNames (tree : FileTree) (directory : Path) :
    (tree.fileNames directory).Pairwise (· < ·) := by
  rw [fileNames]
  split
  · rename_i names hnames
    obtain ⟨location, -, rfl⟩ := names_eq_ok hnames
    exact (pairwise_childNames tree location).filter _
  · exact List.Pairwise.nil

/-- No name is listed twice. -/
theorem nodup_fileNames (tree : FileTree) (directory : Path) :
    (tree.fileNames directory).Nodup := by
  refine (pairwise_fileNames tree directory).imp ?_
  intro name other hlt he
  subst he
  exact String.lt_irrefl name hlt

/-- What has names is a directory. -/
theorem isDirectory_of_names {directory : Path} {names : List String}
    (h : tree.names directory = .ok names) : tree.isDirectory directory = true := by
  obtain ⟨location, hexisting, -⟩ := names_eq_ok h
  exact isDirectory_iff.mpr ⟨location, existing?_eq_ok_iff.mp hexisting⟩

/-- What is no directory has no files. -/
theorem fileNames_of_not_isDirectory {directory : Path}
    (h : tree.isDirectory directory = false) : tree.fileNames directory = [] := by
  rw [fileNames]
  split
  · rename_i names hnames
    rw [isDirectory_of_names hnames] at h
    cases h
  · rfl

end FileTree

/-- A scan of what is no directory finds it missing. -/
theorem Listing.scan_of_not_isDirectory {tree : FileTree} {directory : Path} (kind : EntryKind)
    (h : tree.isDirectory directory = false) :
    Listing.scan tree directory kind = .missing directory := by
  rw [scan]
  split
  · rfl
  · rename_i names hnames
    rw [FileTree.isDirectory_of_names hnames] at h
    cases h

/-- A scan for files finds the files of the directory, under its path. -/
theorem Listing.orEmpty_scan_file (tree : FileTree) (directory : Path) :
    (Listing.scan tree directory .file).orEmpty =
      (tree.fileNames directory).map directory.join := by
  rw [scan, FileTree.fileNames]
  cases tree.names directory with
  | error e => rfl
  | ok names =>
    rw [orEmpty, List.filter_map]
    rfl

end LayeredConfig
