import LayeredConfig.Proofs.Files.Listing
import LayeredConfig.Proofs.Files.WellFormed
import LayeredConfig.Proofs.Files.Writing

/-!
# Regular files in a directory

In a well-formed tree every listed file has the name of an entry. Where no links
stand, the listed files are the regular files that stand below the directory
itself, and each is read as the content that stands there. They stay when a file
is written elsewhere.
-/

namespace LayeredConfig.FileTree

variable {tree : FileTree} {directory : Path} {name : String} {content : ByteArray}

/-- The names of files in a well-formed tree are names of entries. -/
theorem isEntryName_of_hasFile (h : tree.IsWellFormed) (hfile : tree.HasFile directory name) :
    IsEntryName name := by
  obtain ⟨location, -, hsome, -⟩ := hfile
  exact h.nodes _ hsome name (List.mem_append_right _ (List.mem_singleton_self name))

/-- A regular file with a content stands in a directory under a name, and not through a link. -/
def HoldsFile (tree : FileTree) (directory : Path) (name : String) (content : ByteArray) : Prop :=
  ∃ location mode, tree.existing? directory = .ok (location, .directory) ∧
    tree.node? (location ++ [name]) = some (.file mode content)

/-- A regular file in a directory is read by its path. -/
theorem HoldsFile.fetch_eq (hwell : tree.IsWellFormed) (h : tree.HoldsFile directory name content) :
    tree.fetch (directory.join name) = .ok content := by
  obtain ⟨location, mode, hdirectory, hnode⟩ := h
  have hname : IsEntryName name := by
    refine hwell.nodes (location ++ [name]) ?_ name (by simp)
    rw [hnode]
    rfl
  have hplace : tree.place? (directory.join name) = some (location ++ [name]) := by
    refine place?_join hdirectory hname fun target hlink => ?_
    rw [hnode] at hlink
    cases hlink
  exact fetch_eq_ok_iff.mpr ⟨location ++ [name], mode, hplace, hnode⟩

/-- Without links, the files in a directory are the regular files that stand there. -/
theorem hasFile_iff (hwell : tree.IsWellFormed) (hfree : tree.IsLinkFree) :
    tree.HasFile directory name ↔ ∃ content, tree.HoldsFile directory name content := by
  constructor
  · intro h
    have hname := isEntryName_of_hasFile hwell h
    obtain ⟨location, hdirectory, -, hfile⟩ := h
    have hplace := place?_join hdirectory hname (hfree (location ++ [name]))
    obtain ⟨found, mode, content, hfound, hnode⟩ := isFile_iff.mp hfile
    rw [hplace] at hfound
    cases hfound
    exact ⟨content, location, mode, hdirectory, hnode⟩
  · rintro ⟨content, h⟩
    have hfetch := h.fetch_eq hwell
    obtain ⟨location, mode, hdirectory, hnode⟩ := h
    refine ⟨location, hdirectory, by rw [hnode]; rfl, ?_⟩
    obtain ⟨found, mode', hfound⟩ := fetch_eq_ok_iff.mp hfetch
    exact isFile_iff.mpr ⟨found, mode', content, hfound⟩

/-- A written file changes no file of a directory, unless the name in the directory leads to it. -/
theorem WritesFile.holdsFile_iff {tree' : FileTree} {location : Location} {node : Node}
    (h : WritesFile tree tree' location node) (hwell' : tree'.IsWellFormed)
    (hfree : tree.IsLinkFree)
    (helsewhere : tree.place? (directory.join name) ≠ some location) :
    tree'.HoldsFile directory name content ↔ tree.HoldsFile directory name content := by
  have hdirectory : ∀ found, tree'.existing? directory = .ok (found, .directory) ↔
      tree.existing? directory = .ok (found, .directory) := by
    intro found
    rw [existing?_eq_ok_iff, existing?_eq_ok_iff, h.ways.place?, h.ways.node?_eq_directory_iff]
  simp only [HoldsFile, hdirectory]
  refine exists_congr fun found => exists_congr fun mode => and_congr_right fun hexisting => ?_
  have hother : location ≠ found ++ [name] := by
    rintro rfl
    have hsome : (tree'.node? (found ++ [name])).isSome := by
      rw [h.node?, if_pos rfl]
      rfl
    have hname : IsEntryName name := hwell'.nodes _ hsome name (by simp)
    exact helsewhere (place?_join hexisting hname (hfree _))
  rw [h.node?, if_neg hother]

end LayeredConfig.FileTree
