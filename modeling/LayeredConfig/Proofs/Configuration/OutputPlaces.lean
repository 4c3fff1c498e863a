import LayeredConfig.Proofs.Configuration.OutputCollisions
import LayeredConfig.Proofs.Files.Connected

/-!
# Where outputs are written

The name of an output has no slash, so a target directory continued by it leads to
an entry of the directory, to the directory itself or to the one above it. The last
two are directories, which no write replaces. So writing templates, whether it comes
to its end or stops at any of them, changes nothing but regular files directly in
the target directory, under the names of outputs.
-/

namespace LayeredConfig

namespace WorkDirectory

variable {tree tree' final : FileTree} {r : Resolution} {target : Path} {executable : String}
  {directory location : Location} {sources : List Path}

/-- Where a file can be written under a name in a directory, the name is that of an entry. -/
theorem isEntryName_of_free {name : String}
    (htarget : tree.existing? target = .ok (directory, .directory))
    (hparent : tree.node? directory.dropLast = some .directory) (hslash : '/' ∉ name.toList)
    (hplace : tree.place? (target.join name) = some location)
    (hfree : FileTree.onward (tree.node? location) = none) : IsEntryName name := by
  by_contra hname
  have hnode := (FileTree.existing?_eq_ok_iff.mp htarget).2
  rcases FileTree.place?_join_of_not_isEntryName htarget hslash hname hplace with rfl | rfl
  · rw [hnode] at hfree
    cases hfree
  · rw [hparent] at hfree
    cases hfree

/-- The place of an output: directly in a directory, under a name that a template's output has. -/
def IsOutputPlace (r : Resolution) (directory : Location) (sources : List Path)
    (location : Location) : Prop :=
  ∃ source ∈ sources, ∃ name, r.outputName source = .ok name ∧ IsEntryName name ∧
    location = directory ++ [name]

/-- More templates have more places of outputs. -/
theorem IsOutputPlace.cons {source : Path} (h : IsOutputPlace r directory sources location) :
    IsOutputPlace r directory (source :: sources) location := by
  obtain ⟨other, hmem, hname⟩ := h
  exact ⟨other, List.mem_cons_of_mem source hmem, hname⟩

/-- Writing templates one after the other, up to the first failure, changes files at the places
of their outputs alone. -/
theorem writeAll_changesFiles (htarget : tree.existing? target = .ok (directory, .directory))
    (hparent : tree.node? directory.dropLast = some .directory) (hlinks : tree.IsLinkFree)
    (w : WorkDirectory) :
    FileTree.ChangesFiles (IsOutputPlace r directory sources) tree
      (writeAll r target executable sources tree w).1 := by
  -- on the templates: what a write keeps is that the target is a directory in a directory
  induction sources generalizing tree w with
  | nil => exact .refl _ tree
  | cons source rest ih =>
    rw [writeAll]
    cases hrendered : r.renderTemplate tree source with
    | error e => exact .refl _ tree
    | ok rendered =>
      obtain ⟨-, -, hname⟩ := Resolution.renderTemplate_eq_ok_iff.mp hrendered
      have hslash := Resolution.slash_not_mem_outputName hname
      dsimp only
      cases hwrite : writeOutput tree (target.join rendered.name) rendered.body
          (if source.baseName == executable then executableMode else outputMode) with
      | mk written result =>
        cases result with
        | error e =>
          rw [(writeOutput_eq_error hwrite).1]
          exact .refl _ tree
        | ok done =>
          obtain ⟨place, hplace, hwritten⟩ := writeOutput_eq_ok hwrite
          have hentry := isEntryName_of_free htarget hparent hslash hplace hwritten.free
          rw [FileTree.place?_join htarget hentry (hlinks _), Option.some.injEq] at hplace
          have hfirst : FileTree.ChangesFiles (IsOutputPlace r directory (source :: rest)) tree
              written :=
            hwritten.changesFiles
              ⟨source, List.mem_cons_self, rendered.name, hname, hentry, hplace.symm⟩
          have hrest := ih (hwritten.ways.existing?_directory htarget)
            (hwritten.ways.node?_eq_directory_iff.mpr hparent)
            (fun location link => hwritten.ways.node?_ne_link (hlinks location link))
            { w with
              files := w.files ++ [target.join rendered.name]
              entrypoint :=
                if source.baseName == executable then some (target.join rendered.name)
                else w.entrypoint }
          exact hfirst.trans (hrest.mono fun location => IsOutputPlace.cons)

/-- If all templates are written, their outputs have names of entries. -/
theorem isEntryName_of_writeAll {w w' : WorkDirectory}
    (htarget : tree.existing? target = .ok (directory, .directory))
    (hparent : tree.node? directory.dropLast = some .directory)
    (h : writeAll r target executable sources tree w = (final, .ok w')) :
    ∀ source ∈ sources, ∀ name, r.outputName source = .ok name → IsEntryName name := by
  induction sources generalizing tree w with
  | nil => simp
  | cons source rest ih =>
    rw [writeAll] at h
    split at h
    · cases h
    · rename_i rendered hrendered
      obtain ⟨-, -, hname⟩ := Resolution.renderTemplate_eq_ok_iff.mp hrendered
      dsimp only at h
      split at h
      · cases h
      · rename_i written hwrite
        obtain ⟨place, hplace, hwritten⟩ := writeOutput_eq_ok hwrite
        have hentry := isEntryName_of_free htarget hparent
          (Resolution.slash_not_mem_outputName hname) hplace hwritten.free
        have hrest := ih (hwritten.ways.existing?_directory htarget)
          (hwritten.ways.node?_eq_directory_iff.mpr hparent) h
        intro other hmem name hother
        rcases List.mem_cons.mp hmem with rfl | hmem
        · rw [hname] at hother
          cases hother
          exact hentry
        · exact hrest other hmem name hother

/-- In a tree without links, writing the templates of a resolution changes nothing but regular
files directly in the target directory, under names of outputs, wherever it stops. An output
whose name is empty or a step stops it. -/
theorem write_changesFiles (hconnected : tree.IsConnected) (hlinks : tree.IsLinkFree) :
    FileTree.ChangesFiles
      (fun location => ∃ directory sources, tree.existing? target = .ok (directory, .directory) ∧
        r.templateFiles tree = .ok sources ∧ IsOutputPlace r directory sources location)
      tree (write r tree target).1 ∧
    ∀ sources source name, r.templateFiles tree = .ok sources → source ∈ sources →
      r.outputName source = .ok name → ¬ IsEntryName name →
      ∃ e, (write r tree target).2 = .error e := by
  rw [write]
  split
  · rename_i hisDirectory
    obtain ⟨directory, hplace, hnode⟩ := FileTree.isDirectory_iff.mp hisDirectory
    have htarget := FileTree.existing?_eq_ok_iff.mpr ⟨hplace, hnode⟩
    have hparent := hconnected directory (by rw [hnode]; rfl)
    cases r.settings.requiredFile with
    | error e => exact ⟨.refl _ tree, fun _ _ _ _ _ _ _ => ⟨e, rfl⟩⟩
    | ok executable =>
      cases hsources : r.templateFiles tree with
      | error e => exact ⟨.refl _ tree, fun _ _ _ _ _ _ _ => ⟨e, rfl⟩⟩
      | ok sources =>
        dsimp only
        constructor
        · refine (writeAll_changesFiles htarget hparent hlinks _).mono fun location houtput => ?_
          exact ⟨directory, sources, htarget, rfl, houtput⟩
        · intro others source name hothers hmem hname hentry
          cases hothers
          cases hwrite : writeAll r target executable sources tree
              ⟨target, [], none, r.settings.executionCommand⟩ with
          | mk final result =>
            cases result with
            | error e => exact ⟨e, rfl⟩
            | ok w =>
              have hall := isEntryName_of_writeAll htarget hparent hwrite
              exact absurd (hall source hmem name hname) hentry
  · exact ⟨.refl _ tree, fun _ _ _ _ _ _ _ => ⟨_, rfl⟩⟩

/-- A configuration with a start script, and a template that is named for a variable which leads
upwards. -/
def upwardTree : FileTree :=
  ⟨.ofList
    [ (["c"], .directory),
      (["c", "exconf.yaml"], .file 0o644 ("services_dir_name: s\ntemplates_dir_name: t\n" ++
        "environments_dir_name: e\ntemplate_type: app\nexecution_file: Run\nup: ..\n").toUTF8),
      (["c", "e"], .directory),
      (["c", "s"], .directory),
      (["c", "t"], .directory),
      (["c", "t", "app"], .directory),
      (["c", "t", "app", "Run"], .file 0o644 "start\n".toUTF8),
      (["c", "t", "app", "___up___"], .file 0o644 "outside\n".toUTF8),
      (["out"], .directory),
      (["out", "notes"], .file 0o600 "keep\n".toUTF8) ], []⟩

/-- Writing stops at the name that leads upwards. The start script stands in the target directory,
and everything else is as it was. -/
theorem write_stops_upwards :
    ∃ root r final e, Root.openAt upwardTree ⟨"/c"⟩ = .ok root ∧
      Resolution.resolve root upwardTree (.ofNames "web" "prod") = .ok r ∧
      r.outputName ⟨"/c/t/app/___up___"⟩ = .ok ".." ∧
      write r upwardTree ⟨"/out"⟩ = (final, .error e) ∧
      final.node? ["out", "Run"] = some (.file executableMode "start\n".toUTF8) ∧
      ∀ location, location ≠ ["out", "Run"] →
        final.node? location = upwardTree.node? location := by
  have hrun : ((Root.openAt upwardTree ⟨"/c"⟩).bind fun root =>
      (Resolution.resolve root upwardTree (.ofNames "web" "prod")).bind fun r => .ok <| decide <|
        (r.templateFiles upwardTree).toOption =
          some [⟨"/c/t/app/Run"⟩, ⟨"/c/t/app/___up___"⟩] ∧
        (r.outputName ⟨"/c/t/app/Run"⟩).toOption = some "Run" ∧
        (r.outputName ⟨"/c/t/app/___up___"⟩).toOption = some ".." ∧
        (write r upwardTree ⟨"/out"⟩).1.node? ["out", "Run"] =
          some (.file executableMode "start\n".toUTF8)).toOption = some true := by
    decide +kernel
  have htarget : (upwardTree.existing? ⟨"/out"⟩).toOption = some (["out"], .directory) := by
    decide +kernel
  have hconnected : upwardTree.IsConnected := by decide +kernel
  have hlinks : upwardTree.IsLinkFree := by decide +kernel
  obtain ⟨root, hroot, hrun⟩ := exists_of_toOption_bind hrun
  obtain ⟨r, hr, hrun⟩ := exists_of_toOption_bind hrun
  obtain ⟨hsources, hfirst, hup, hwritten⟩ := of_decide_eq_true (Option.some.inj hrun)
  have hfiles := eq_ok_of_toOption hsources
  obtain ⟨hchanges, hstops⟩ := @write_changesFiles upwardTree r ⟨"/out"⟩ hconnected hlinks
  obtain ⟨e, he⟩ := hstops _ ⟨"/c/t/app/___up___"⟩ ".." hfiles (by simp)
    (eq_ok_of_toOption hup) (by decide)
  refine ⟨root, r, _, e, hroot, hr, eq_ok_of_toOption hup, Prod.ext rfl he, hwritten, ?_⟩
  intro location hne
  rcases hchanges.node? location with hsame | ⟨⟨directory, sources, hdirectory, hlisted, houtput⟩, -⟩
  · exact hsame
  · obtain ⟨source, hmem, name, hname, hentry, hlocation⟩ := houtput
    rw [eq_ok_of_toOption htarget] at hdirectory
    cases hdirectory
    rw [hfiles] at hlisted
    cases hlisted
    rcases List.mem_pair.mp hmem with rfl | rfl
    · rw [eq_ok_of_toOption hfirst] at hname
      cases hname
      exact absurd hlocation hne
    · rw [eq_ok_of_toOption hup] at hname
      cases hname
      exact absurd hentry (by decide)

end WorkDirectory

end LayeredConfig
