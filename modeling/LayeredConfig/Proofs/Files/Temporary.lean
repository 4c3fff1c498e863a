import LayeredConfig.Proofs.Files.Connected
import LayeredConfig.Proofs.Files.Growth
import LayeredConfig.Proofs.Files.Listing

/-!
# New directories

A directory continued by the name of an entry leads to the entry. So a temporary
directory is made as a new entry of the directory for temporary files, and as nothing
can stand below what does not exist, it is empty: no path leads to a file in it.
-/

namespace LayeredConfig

/-- A name that begins like no step upwards, and has no slash, is the name of an entry. -/
theorem isEntryName_of_head {name : String} {c : Char} (hc : name.toList.head? = some c)
    (hdot : c ≠ '.') (hslash : '/' ∉ name.toList) : IsEntryName name := by
  refine ⟨?_, ?_, ?_, hslash⟩
  · rintro rfl
    simp at hc
  · rintro rfl
    exact hdot (Option.some.inj hc).symm
  · rintro rfl
    exact hdot (Option.some.inj hc).symm

/-- A path continued by a name does not end in a slash. -/
theorem Path.getLast?_join (p : Path) {name : String} (hname : IsEntryName name) :
    (p.join name).text.toList.getLast? ≠ some '/' := by
  obtain ⟨hne, -, -, hslash⟩ := hname
  have hlist : name.toList ≠ [] := by simpa using hne
  rw [Path.toList_join p hslash, List.getLast?_append, List.getLast?_eq_some_getLast hlist,
    Option.some_or]
  intro hlast
  have hmem := List.getLast_mem hlist
  rw [Option.some.inj hlast] at hmem
  exact hslash hmem

namespace FileTree

variable {tree made : FileTree} {inside p : Path} {location : Location} {name stem : String}

/-- The names of temporary directories are names of entries when their stem begins like one. -/
theorem isEntryName_temporaryName {c : Char} (hc : stem.toList.head? = some c) (hdot : c ≠ '.')
    (hslash : '/' ∉ stem.toList) (n : Nat) : IsEntryName (temporaryName stem n) := by
  have hname : (temporaryName stem n).toList = stem.toList ++
      (List.replicate (6 - (Nat.toDigits 10 n).length) '0' ++ Nat.toDigits 10 n) := by
    simp [temporaryName]
  refine isEntryName_of_head (c := c) ?_ hdot ?_
  · rw [hname, List.head?_append, hc]
    rfl
  · have hdigits : '/' ∉ Nat.toDigits 10 n := by
      intro hmem
      have hdigit := Nat.isDigit_of_mem_toDigits (by omega) (by omega) hmem
      exact absurd hdigit (by decide)
    rw [hname]
    simp [hslash, hdigits]

/-- The name that is chosen for a temporary directory is one of the candidates. -/
theorem exists_temporaryName (stem : String) (taken : List String) (tries n : Nat) :
    ∃ m, freshNameFrom stem taken tries n = temporaryName stem m := by
  induction tries generalizing n with
  | zero => exact ⟨n, rfl⟩
  | succ tries ih =>
    rw [freshNameFrom]
    split
    · exact ih (n + 1)
    · exact ⟨n, rfl⟩

/-- A directory continued by the name of an entry is located at the entry, whatever stands
there. -/
theorem locate_join (h : tree.existing? inside = .ok (location, .directory))
    (hname : IsEntryName name) :
    tree.locate false (inside.join name) =
      .ok (location ++ [name], tree.node? (location ++ [name])) := by
  obtain ⟨hne, hdot, hup, hslash⟩ := hname
  obtain ⟨-, hnode⟩ := existing?_eq_ok_iff.mp h
  obtain ⟨htext, hfollow⟩ := follow_namedParts h
  obtain ⟨left, hleft⟩ := follow_append hfollow
  have hwalk : tree.walk false location [name] =
      .arrived (location ++ [name]) (tree.node? (location ++ [name])) := by
    rw [walk, if_neg (not_not_intro hnode), if_neg hdot, if_neg hup]
    cases hentry : tree.node? (location ++ [name]) with
    | none => rfl
    | some node =>
      cases node with
      | link target => rfl
      | directory => rw [walk, hentry]
      | file mode content => rw [walk, hentry]
  have horigin : (inside.join name).origin tree.current = inside.origin tree.current := by
    rw [Path.origin, Path.origin, Path.isAbsolute_join inside hslash htext]
  rw [locate, if_neg (Path.text_join_ne_empty inside hslash htext), horigin,
    Path.steps_join inside hne hslash, hleft false [name] (by simp), follow, hwalk]

/-- A directory is made under the name of an entry when nothing stands there. -/
theorem makeDirectory_join_eq_ok (h : tree.existing? inside = .ok (location, .directory))
    (hname : IsEntryName name) (hmake : tree.makeDirectory (inside.join name) = .ok made) :
    tree.node? (location ++ [name]) = none ∧
      made = tree.put (location ++ [name]) .directory := by
  have hlocate := locate_join h hname
  -- there is no slash at the end that could be left out
  have hwritten : ((inside.join name).text.toList.reverse.dropWhile (· == '/')).reverse =
      (inside.join name).text.toList := by
    have hlast := Path.getLast?_join inside hname
    rw [← List.head?_reverse] at hlast
    cases hrev : (inside.join name).text.toList.reverse with
    | nil => simpa using hrev.symm
    | cons c rest =>
      have hc : (c == '/') = false := by
        rw [hrev] at hlast
        simpa using hlast
      rw [List.dropWhile_cons, hc, ← hrev]
      simp
  rw [makeDirectory] at hmake
  simp only [hwritten, String.ofList_toList, ite_self, hlocate] at hmake
  cases hnode : tree.node? (location ++ [name]) with
  | none =>
    rw [hnode] at hmake
    cases hmake
    exact ⟨rfl, rfl⟩
  | some node =>
    rw [hnode] at hmake
    cases hmake

/-- The path leads to a directory with nothing in it. -/
def IsEmptyDirectory (tree : FileTree) (p : Path) (location : Location) : Prop :=
  tree.existing? p = .ok (location, .directory) ∧ tree.childNames location = []

/-- A temporary directory is made as an empty one. -/
theorem isEmptyDirectory_makeTemporary {c : Char} (hconnected : tree.IsConnected)
    (hc : stem.toList.head? = some c) (hdot : c ≠ '.') (hslash : '/' ∉ stem.toList)
    (hmake : tree.makeTemporary inside stem = .ok (made, p)) :
    ∃ location, made.IsEmptyDirectory p location := by
  have hone := makeTemporary_eq_ok hmake
  rw [makeTemporary] at hmake
  split at hmake
  · cases hmake
  · rename_i taken htaken
    obtain ⟨above, habove, -⟩ := names_eq_ok htaken
    obtain ⟨m, hm⟩ := exists_temporaryName stem taken taken.length 0
    have hname := isEntryName_temporaryName hc hdot hslash m
    obtain rfl : p = inside.join (temporaryName stem m) := by
      dsimp only at hmake
      split at hmake
      · cases hmake
        rw [hm]
      · cases hmake
    obtain ⟨hfree, rfl⟩ := makeDirectory_join_eq_ok habove hname hone
    have hput := fun other => node?_put tree (above ++ [temporaryName stem m]) .directory other
      (by simp)
    have habove' := (extends_makeDirectory hone).existing?_eq_ok habove
    have hplace := place?_join habove' hname fun target htarget => by
      rw [hput, if_pos rfl] at htarget
      cases htarget
    refine ⟨_, existing?_eq_ok_iff.mpr ⟨hplace, by rw [hput, if_pos rfl]⟩, ?_⟩
    rw [List.eq_nil_iff_forall_not_mem]
    intro child hchild
    have hsome := mem_childNames_iff.mp hchild
    rw [hput, if_neg (by simp)] at hsome
    have hparent := hconnected _ hsome
    rw [List.dropLast_concat, hfree] at hparent
    cases hparent

/-- No file stands directly in an empty directory. -/
theorem IsEmptyDirectory.dropLast_place? (h : tree.IsEmptyDirectory p location) {source : Path}
    (hfile : tree.isFile source = true) :
    (tree.place? source).map List.dropLast ≠ some location := by
  obtain ⟨place, mode, content, hplace, hnode⟩ := isFile_iff.mp hfile
  rw [hplace, Option.map_some]
  intro hdrop
  have hne : place ≠ [] := by
    rintro rfl
    cases hnode
  have hchild : place.getLast hne ∈ tree.childNames location := by
    rw [mem_childNames_iff, ← Option.some.inj hdrop, List.dropLast_concat_getLast, hnode]
    rfl
  rw [h.2] at hchild
  cases hchild

end FileTree

end LayeredConfig
