import LayeredConfig.Configuration.TemplateFiles
import LayeredConfig.Proofs.Files.RegularFiles
import LayeredConfig.Proofs.Outcome

/-!
# Which template files are selected

The files of four directories are read from the most particular directory on,
and the first file of a name is kept. So every name that occurs in one of the
directories is selected once, from the most particular directory that has it.
-/

namespace LayeredConfig.Resolution

open FileTree (isEntryName_of_hasFile)

section FirstByName

variable {seen : List String} {tree : FileTree}

/-- Only which names were seen matters. -/
theorem firstByName_congr {seen' : List String} (h : ∀ name, name ∈ seen ↔ name ∈ seen')
    (paths : List Path) : firstByName seen paths = firstByName seen' paths := by
  induction paths generalizing seen seen' with
  | nil => rfl
  | cons p rest ih =>
    rw [firstByName, firstByName]
    cases p.fileName? with
    | none => exact ih h
    | some name =>
      simp only [h name]
      split
      · exact ih h
      · congr 1
        exact ih fun other => by simp [h other]

/-- The names of the first paths count as seen for the others. -/
theorem firstByName_append (seen : List String) (first second : List Path) :
    firstByName seen (first ++ second) =
      firstByName seen first ++ firstByName (first.filterMap Path.fileName? ++ seen) second := by
  induction first generalizing seen with
  | nil => rfl
  | cons p rest ih =>
    rw [List.cons_append, firstByName, firstByName]
    cases hname : p.fileName? with
    | none =>
      rw [List.filterMap_cons_none hname]
      exact ih seen
    | some name =>
      rw [List.filterMap_cons_some hname]
      dsimp only
      split
      · rename_i hseen
        rw [ih seen]
        congr 1
        refine firstByName_congr (fun other => ?_) second
        simp only [List.cons_append, List.mem_cons, List.mem_append]
        constructor
        · exact .inr
        · rintro (rfl | hmem)
          · exact .inr hseen
          · exact hmem
      · rw [ih (name :: seen), List.cons_append]
        congr 2
        refine firstByName_congr (fun other => ?_) second
        simp only [List.cons_append, List.mem_cons, List.mem_append]
        exact or_left_comm

/-- The entries of a directory have their names. -/
theorem filterMap_fileName?_map_join (directory : Path) {names : List String}
    (hnames : ∀ name ∈ names, IsEntryName name) :
    (names.map directory.join).filterMap Path.fileName? = names := by
  induction names with
  | nil => rfl
  | cons name rest ih =>
    have hname := Path.fileName?_join directory (hnames name List.mem_cons_self)
    rw [List.map_cons, List.filterMap_cons_some hname,
      ih fun other hmem => hnames other (List.mem_cons_of_mem _ hmem)]

/-- Of the entries of one directory those are kept whose names were not seen before. -/
theorem firstByName_map_join (seen : List String) (directory : Path) {names : List String}
    (hnames : ∀ name ∈ names, IsEntryName name) (hnodup : names.Nodup) :
    firstByName seen (names.map directory.join) =
      (names.filter (· ∉ seen)).map directory.join := by
  induction names generalizing seen with
  | nil => rfl
  | cons name rest ih =>
    obtain ⟨hnew, hrest⟩ := List.nodup_cons.mp hnodup
    have hentries := fun other hmem => hnames other (List.mem_cons_of_mem name hmem)
    rw [List.map_cons, firstByName,
      Path.fileName?_join directory (hnames name List.mem_cons_self)]
    dsimp only
    split
    · rename_i hseen
      rw [ih seen hentries hrest, List.filter_cons_of_neg (by simpa using hseen)]
    · rename_i hseen
      rw [ih (name :: seen) hentries hrest, List.filter_cons_of_pos (by simpa using hseen)]
      congr 2
      refine List.filter_congr fun other hmem => ?_
      have hne : other ≠ name := fun he => hnew (he ▸ hmem)
      simp [hne]

end FirstByName

section Directories

variable {tree : FileTree} {directory : Path} {name : String}

/-- The files of a directory whose names are the name of no file in the earlier directories. -/
def freshFiles (tree : FileTree) (earlier : List Path) (directory : Path) : List Path :=
  ((tree.fileNames directory).filter fun name =>
    ∀ other ∈ earlier, name ∉ tree.fileNames other).map directory.join

/-- The fresh files of directories, each after the ones in front of it. -/
def selection (tree : FileTree) : (earlier : List Path) → List Path → List Path
  | _, [] => []
  | earlier, directory :: rest =>
    freshFiles tree earlier directory ++ selection tree (earlier ++ [directory]) rest

/-- The first files of all names are the fresh files of the directories. -/
theorem firstByName_filesIn (h : tree.IsWellFormed) {seen : List String} {earlier : List Path}
    (hseen : ∀ name, name ∈ seen ↔ ∃ other ∈ earlier, name ∈ tree.fileNames other)
    (directories : List Path) :
    firstByName seen (filesIn tree directories) = selection tree earlier directories := by
  induction directories generalizing seen earlier with
  | nil => rfl
  | cons directory rest ih =>
    have hentries : ∀ name ∈ tree.fileNames directory, IsEntryName name := by
      intro name hmem
      exact isEntryName_of_hasFile h (FileTree.mem_fileNames_iff.mp hmem)
    have hnames := filterMap_fileName?_map_join directory hentries
    have hfresh : (tree.fileNames directory).filter (· ∉ seen) =
        (tree.fileNames directory).filter fun name =>
          ∀ other ∈ earlier, name ∉ tree.fileNames other := by
      refine List.filter_congr fun name hmem => ?_
      simp [hseen name]
    have hcons : filesIn tree (directory :: rest) =
        (tree.fileNames directory).map directory.join ++ filesIn tree rest := by
      rw [filesIn, List.flatMap_cons, Listing.orEmpty_scan_file]
      rfl
    rw [hcons, firstByName_append, firstByName_map_join seen directory hentries
      (tree.nodup_fileNames directory), hfresh, hnames, selection, freshFiles]
    congr 1
    apply ih
    intro name
    rw [List.mem_append, hseen name]
    simp only [List.mem_append, List.mem_singleton]
    constructor
    · rintro (hmem | ⟨other, hother, hmem⟩)
      · exact ⟨directory, .inr rfl, hmem⟩
      · exact ⟨other, .inl hother, hmem⟩
    · rintro ⟨other, hother | rfl, hmem⟩
      · exact .inr ⟨other, hother, hmem⟩
      · exact .inl hmem

/-- A fresh file is a file of its directory, under a name that no earlier directory has. -/
theorem mem_freshFiles_iff {earlier : List Path} {p : Path} :
    p ∈ freshFiles tree earlier directory ↔
      ∃ name, tree.HasFile directory name ∧ (∀ other ∈ earlier, ¬ tree.HasFile other name) ∧
        p = directory.join name := by
  simp only [freshFiles, List.mem_map, List.mem_filter, decide_eq_true_eq,
    FileTree.mem_fileNames_iff]
  constructor
  · rintro ⟨name, ⟨hfile, hearlier⟩, rfl⟩
    exact ⟨name, hfile, hearlier, rfl⟩
  · rintro ⟨name, hfile, hearlier, rfl⟩
    exact ⟨name, ⟨hfile, hearlier⟩, rfl⟩

/-- A selected file is a file of one of the directories under a name that no directory in front
of it has, and all such files are selected. -/
theorem mem_selection_iff {earlier directories : List Path} {p : Path} :
    p ∈ selection tree earlier directories ↔
      ∃ before directory after name, directories = before ++ directory :: after ∧
        tree.HasFile directory name ∧
        (∀ other ∈ earlier ++ before, ¬ tree.HasFile other name) ∧ p = directory.join name := by
  induction directories generalizing earlier with
  | nil => simp [selection]
  | cons first rest ih =>
    rw [selection, List.mem_append, mem_freshFiles_iff, ih]
    constructor
    · rintro (⟨name, hfile, hearlier, rfl⟩ | ⟨before, directory, after, name, rfl, hrest⟩)
      · exact ⟨[], first, rest, name, rfl, hfile, by simpa using hearlier, rfl⟩
      · refine ⟨first :: before, directory, after, name, rfl, ?_⟩
        rwa [List.append_assoc] at hrest
    · rintro ⟨before, directory, after, name, hsplit, hfile, hbefore, rfl⟩
      cases before with
      | nil =>
        cases hsplit
        exact .inl ⟨name, hfile, by simpa using hbefore, rfl⟩
      | cons head before =>
        cases hsplit
        refine .inr ⟨before, directory, after, name, rfl, hfile, ?_, rfl⟩
        rwa [List.append_assoc]

/-- A name that one of the directories has is had first by one of them. -/
theorem exists_first_hasFile {directories : List Path} (hmem : directory ∈ directories)
    (hfile : tree.HasFile directory name) :
    ∃ before first after, directories = before ++ first :: after ∧ tree.HasFile first name ∧
      ∀ other ∈ before, ¬ tree.HasFile other name := by
  induction directories with
  | nil => cases hmem
  | cons head rest ih =>
    by_cases hhead : tree.HasFile head name
    · exact ⟨[], head, rest, rfl, hhead, by simp⟩
    · rcases List.mem_cons.mp hmem with rfl | hmem
      · exact absurd hfile hhead
      · obtain ⟨before, first, after, rfl, hfirst, hbefore⟩ := ih hmem
        refine ⟨head :: before, first, after, rfl, hfirst, ?_⟩
        intro other hother
        rcases List.mem_cons.mp hother with rfl | hother
        · exact hhead
        · exact hbefore other hother

/-- The base names of fresh files are names of files of the directory. -/
theorem map_baseName_freshFiles (h : tree.IsWellFormed) (earlier : List Path) (directory : Path) :
    (freshFiles tree earlier directory).map Path.baseName =
      (tree.fileNames directory).filter fun name =>
        ∀ other ∈ earlier, name ∉ tree.fileNames other := by
  rw [freshFiles, List.map_map]
  refine (List.map_congr_left fun name hmem => ?_).trans (List.map_id _)
  have hfile := FileTree.mem_fileNames_iff.mp (List.mem_filter.mp hmem).1
  exact Path.baseName_join directory (isEntryName_of_hasFile h hfile)

/-- No base name is selected twice. -/
theorem nodup_baseName_selection (h : tree.IsWellFormed) (earlier directories : List Path) :
    ((selection tree earlier directories).map Path.baseName).Nodup := by
  induction directories generalizing earlier with
  | nil => exact List.Pairwise.nil
  | cons first rest ih =>
    rw [selection, List.map_append, map_baseName_freshFiles h]
    refine List.nodup_append.mpr ⟨(tree.nodup_fileNames first).filter _, ih _, ?_⟩
    intro name hname other hother he
    subst he
    obtain ⟨p, hp, hbase⟩ := List.mem_map.mp hother
    obtain ⟨before, directory, after, name', -, hfile, hbefore, rfl⟩ := mem_selection_iff.mp hp
    have hentry := isEntryName_of_hasFile h hfile
    rw [Path.baseName_join directory hentry] at hbase
    subst hbase
    -- the first directory has this name, so no later one keeps it
    refine hbefore first ?_ (FileTree.mem_fileNames_iff.mp (List.mem_filter.mp hname).1)
    simp

end Directories

section TemplateFiles

variable {r : Resolution} {tree : FileTree} {type : String}

/-- A type with a name and a directory has its templates there. -/
theorem templateDirectory_eq_ok
    (htype : r.values.lookup? ConfigError.templateTypeVariable = some type) (hne : type ≠ "")
    (htemplates : tree.isDirectory (r.root.path.join r.settings.templatesDirectory) = true)
    (hdirectory : tree.isDirectory
      ((r.root.path.join r.settings.templatesDirectory).join type) = true) :
    r.templateDirectory tree =
      .ok ((r.root.path.join r.settings.templatesDirectory).join type) := by
  rw [templateDirectory, htype]
  simp [Root.templatesDirectory, Root.existingDirectory, htemplates, hne, hdirectory]

/-- The selected files of a resolution whose template directory is there. -/
theorem templateFiles_eq_ok {directory : Path} (hwell : tree.IsWellFormed)
    (hdirectory : r.templateDirectory tree = .ok directory) :
    r.templateFiles tree = .ok (selection tree [] (r.candidateDirectories directory)) := by
  have hnone : ∀ name, name ∈ ([] : List String) ↔
      ∃ other ∈ ([] : List Path), name ∈ tree.fileNames other := by simp
  rw [templateFiles, hdirectory]
  exact congrArg Except.ok (firstByName_filesIn hwell hnone _)

/-- The template files of a resolution are the files of the four candidate directories, each
directory in the order of the names and without the names that a directory in front of it has.
No base name occurs twice, every name present in a candidate directory stands for the file in
the first directory that has it, and nothing else is listed. -/
theorem templateFiles_of_directories (hwell : tree.IsWellFormed)
    (htype : r.values.lookup? ConfigError.templateTypeVariable = some type) (hne : type ≠ "")
    (htemplates : tree.isDirectory (r.root.path.join r.settings.templatesDirectory) = true)
    (hdirectory : tree.isDirectory
      ((r.root.path.join r.settings.templatesDirectory).join type) = true) :
    let general := (r.root.path.join r.settings.templatesDirectory).join type
    let inEnvironment :=
      (general.join r.settings.environmentsDirectory).join r.request.environment
    let ofService := (general.join r.settings.servicesDirectory).join r.request.service
    let here := (inEnvironment.join r.settings.servicesDirectory).join r.request.service
    let candidates := [here, ofService, inEnvironment, general]
    ∃ files, r.templateFiles tree = .ok files ∧
      files = freshFiles tree [] here ++ freshFiles tree [here] ofService ++
        freshFiles tree [here, ofService] inEnvironment ++
        freshFiles tree [here, ofService, inEnvironment] general ∧
      (∀ directory ∈ candidates, (tree.fileNames directory).Pairwise (· < ·)) ∧
      (files.map Path.baseName).Nodup ∧
      (∀ directory ∈ candidates, ∀ name, tree.HasFile directory name →
        ∃ before first after, candidates = before ++ first :: after ∧
          tree.HasFile first name ∧ (∀ other ∈ before, ¬ tree.HasFile other name) ∧
          first.join name ∈ files) ∧
      (∀ p ∈ files, ∃ directory ∈ candidates, ∃ name, IsEntryName name ∧
        tree.HasFile directory name ∧ p = directory.join name ∧ p.baseName = name) ∧
      ∀ directory ∈ candidates, tree.isDirectory directory = false →
        tree.fileNames directory = [] := by
  intro general inEnvironment ofService here candidates
  have hcandidates : r.candidateDirectories general = candidates := rfl
  have hfiles : r.templateFiles tree = .ok (selection tree [] candidates) := by
    rw [← hcandidates]
    exact templateFiles_eq_ok hwell (templateDirectory_eq_ok htype hne htemplates hdirectory)
  refine ⟨_, hfiles, ?_, ?_, nodup_baseName_selection hwell [] candidates, ?_, ?_, ?_⟩
  · simp only [candidates, selection, List.nil_append, List.cons_append, List.append_nil,
      List.append_assoc]
  · exact fun directory _ => tree.pairwise_fileNames directory
  · intro directory hmem name hfile
    obtain ⟨before, first, after, hsplit, hfirst, hbefore⟩ := exists_first_hasFile hmem hfile
    refine ⟨before, first, after, hsplit, hfirst, hbefore, ?_⟩
    exact mem_selection_iff.mpr ⟨before, first, after, name, hsplit, hfirst, hbefore, rfl⟩
  · intro p hp
    obtain ⟨before, directory, after, name, hsplit, hfile, -, rfl⟩ := mem_selection_iff.mp hp
    have hentry := isEntryName_of_hasFile hwell hfile
    refine ⟨directory, ?_, name, hentry, hfile, rfl, Path.baseName_join directory hentry⟩
    rw [hsplit]
    simp
  · exact fun directory _ hmissing => FileTree.fileNames_of_not_isDirectory hmissing

/-- A shop whose service has a start script of its own. -/
def shopTree : FileTree :=
  ⟨.ofList
    [ (["c"], .directory),
      (["c", "exconf.yaml"], .file 0o644 ("services_dir_name: s\n" ++
        "templates_dir_name: t\nenvironments_dir_name: e\ntemplate_type: app\n").toUTF8),
      (["c", "e"], .directory),
      (["c", "s"], .directory),
      (["c", "t"], .directory),
      (["c", "t", "app"], .directory),
      (["c", "t", "app", "log.conf"], .file 0o644 "".toUTF8),
      (["c", "t", "app", "run.sh"], .file 0o644 "".toUTF8),
      (["c", "t", "app", "s"], .directory),
      (["c", "t", "app", "s", "web"], .directory),
      (["c", "t", "app", "s", "web", "run.sh"], .file 0o644 "".toUTF8) ], []⟩

/-- The script of the service comes first and hides the general one. -/
theorem templateFiles_shop :
    ∃ root r files, Root.openAt shopTree ⟨"/c"⟩ = .ok root ∧
      resolve root shopTree (.ofNames "web" "prod") = .ok r ∧
      r.templateFiles shopTree = .ok files ∧ (files.map Path.baseName).Nodup ∧
      files = [⟨"/c/t/app/s/web/run.sh"⟩, ⟨"/c/t/app/log.conf"⟩] := by
  have hrun : ((Root.openAt shopTree ⟨"/c"⟩).bind fun root =>
      (resolve root shopTree (.ofNames "web" "prod")).bind fun r => .ok <| decide <|
        r.values.lookup? ConfigError.templateTypeVariable = some "app" ∧
        shopTree.isDirectory (r.root.path.join r.settings.templatesDirectory) = true ∧
        shopTree.isDirectory
          ((r.root.path.join r.settings.templatesDirectory).join "app") = true ∧
        (r.templateFiles shopTree).toOption =
          some [⟨"/c/t/app/s/web/run.sh"⟩, ⟨"/c/t/app/log.conf"⟩]).toOption = some true := by
    decide +kernel
  obtain ⟨root, hroot, hrun⟩ := exists_of_toOption_bind hrun
  obtain ⟨r, hr, hrun⟩ := exists_of_toOption_bind hrun
  obtain ⟨htype, htemplates, hdirectory, hfiles⟩ := of_decide_eq_true (Option.some.inj hrun)
  obtain ⟨files, hok, -, -, hnodup, -⟩ := templateFiles_of_directories
    (by decide +kernel) htype (by decide) htemplates hdirectory
  rw [hok] at hfiles
  exact ⟨root, r, files, hroot, hr, hok, hnodup, Option.some.inj hfiles⟩

end TemplateFiles

end LayeredConfig.Resolution
