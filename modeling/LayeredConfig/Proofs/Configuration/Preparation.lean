import LayeredConfig.Proofs.Configuration.OutputPlaces
import LayeredConfig.Proofs.Configuration.PrintedOutputs
import LayeredConfig.Proofs.Files.Temporary

/-!
# Preparing a temporary work directory

A temporary work directory is new and empty, so no output is written over a template,
and no output is written anywhere but directly in it. A preparation that comes to its
end has written the output of every listed template. One that does not stops at the
first of its steps that fails, with the failure of that step.
-/

namespace LayeredConfig.WorkDirectory

variable {root : Root} {tree made written final : FileTree} {request : Request}
  {temporary directory p : Path} {r : Resolution} {executable : String} {sources : List Path}
  {location : Location} {w : WorkDirectory} {e : ConfigError}

/-- A request comes as far as the list of its templates: the directory is made, the variables are
resolved, the file to execute is given, and the templates are found. -/
structure ComesToTemplates (root : Root) (tree : FileTree) (request : Request) (temporary : Path)
    (made : FileTree) (directory : Path) (r : Resolution) (executable : String)
    (sources : List Path) : Prop where
  /-- The directory is new. -/
  making : tree.makeTemporary temporary temporaryStem = .ok (made, directory)
  /-- The variables are those of the request. -/
  resolving : Resolution.resolve root made request = .ok r
  /-- The settings name the file to execute. -/
  choosing : r.settings.requiredFile = .ok executable
  /-- The templates are those of the variables. -/
  listing : r.templateFiles made = .ok sources

/-- What stops a preparation: the failure of the first step that fails. -/
inductive PreparationStops (root : Root) (tree : FileTree) (request : Request) (temporary : Path) :
    ConfigError → Prop
  /-- The directory cannot be made. -/
  | making {cause : FileError} : tree.makeTemporary temporary temporaryStem = .error cause →
      PreparationStops root tree request temporary (.file cause)
  /-- The variables cannot be resolved. -/
  | resolving {made : FileTree} {directory : Path} {e : ConfigError} :
      tree.makeTemporary temporary temporaryStem = .ok (made, directory) →
      Resolution.resolve root made request = .error e →
      PreparationStops root tree request temporary e
  /-- The file to execute is not given. -/
  | choosing {made : FileTree} {directory : Path} {r : Resolution} {e : ConfigError} :
      tree.makeTemporary temporary temporaryStem = .ok (made, directory) →
      Resolution.resolve root made request = .ok r → r.settings.requiredFile = .error e →
      PreparationStops root tree request temporary e
  /-- The templates cannot be listed. -/
  | listing {made : FileTree} {directory : Path} {r : Resolution} {executable : String}
      {e : ConfigError} :
      tree.makeTemporary temporary temporaryStem = .ok (made, directory) →
      Resolution.resolve root made request = .ok r → r.settings.requiredFile = .ok executable →
      r.templateFiles made = .error e → PreparationStops root tree request temporary e
  /-- A template cannot be populated, after the outputs of those before it are written. -/
  | populating {made written : FileTree} {directory failing : Path} {r : Resolution}
      {executable : String} {before after : List Path} {outputs : List RenderedTemplate}
      {e : ConfigError} :
      ComesToTemplates root tree request temporary made directory r executable
        (before ++ failing :: after) →
      r.renderAll made before = .ok outputs →
      writeOutputs directory executable outputs made = (written, .ok ()) →
      r.populate made failing = .error e → PreparationStops root tree request temporary e
  /-- The output of a populated template cannot be named, after those before it are written. -/
  | naming {made written : FileTree} {directory failing : Path} {r : Resolution}
      {executable body : String} {before after : List Path} {outputs : List RenderedTemplate}
      {e : ConfigError} :
      ComesToTemplates root tree request temporary made directory r executable
        (before ++ failing :: after) →
      r.renderAll made before = .ok outputs →
      writeOutputs directory executable outputs made = (written, .ok ()) →
      r.populate made failing = .ok body → r.outputName failing = .error e →
      PreparationStops root tree request temporary e
  /-- An output cannot be written. -/
  | writing {made written : FileTree} {directory : Path} {r : Resolution} {executable : String}
      {before after : List Path} {outputs : List RenderedTemplate} {e : ConfigError} :
      ComesToTemplates root tree request temporary made directory r executable
        (before ++ after) →
      r.renderAll made before = .ok outputs →
      writeOutputs directory executable outputs made = (written, .error e) →
      PreparationStops root tree request temporary e

/-! ## Into an empty directory -/

/-- Listed templates do not stand in an empty directory, so it spares them. -/
theorem sparesSources_of_isEmptyDirectory (h : tree.IsEmptyDirectory p location)
    (hconnected : tree.IsConnected) (hsources : r.templateFiles tree = .ok sources) :
    SparesSources tree p sources := by
  have hnode := (FileTree.existing?_eq_ok_iff.mp h.1).2
  have hparent := hconnected location (by rw [hnode]; rfl)
  refine sparesSources_of_empty h.1 h.2 hparent fun source hmem => ?_
  have hfile := Resolution.isFile_of_mem_templateFiles hsources hmem
  exact ⟨hfile, h.dropLast_place? hfile⟩

/-- The path leads to a regular file directly in the directory, not by way of a link. -/
def IsFileIn (tree : FileTree) (directory p : Path) : Prop :=
  ∃ location name mode content, tree.existing? directory = .ok (location, .directory) ∧
    IsEntryName name ∧ p = directory.join name ∧
    tree.node? (location ++ [name]) = some (.file mode content)

/-- Templates written into an empty directory have all been rendered, and their outputs are files
directly in it. -/
theorem writeAll_of_isEmptyDirectory (h : tree.IsEmptyDirectory p location)
    (hconnected : tree.IsConnected) (hsources : r.templateFiles tree = .ok sources)
    (hwrite : writeAll r p executable sources tree ⟨p, [], none, r.settings.executionCommand⟩ =
      (final, .ok w)) :
    w.path = p ∧ w.command = r.settings.executionCommand ∧
      ∃ outputs, r.renderAll tree sources = .ok outputs ∧
        w.files = outputs.map (fun output => p.join output.name) ∧
        ∀ file ∈ w.files, IsFileIn final p file := by
  have hnode := (FileTree.existing?_eq_ok_iff.mp h.1).2
  have hparent := hconnected location (by rw [hnode]; rfl)
  have hspared := sparesSources_of_isEmptyDirectory h hconnected hsources
  have hapart := readsApart_of_spared hspared hsources
  have hnames := isEntryName_of_writeAll h.1 hparent hwrite
  obtain ⟨outputs, hrender, hfiles, hwrites⟩ := writeAll_eq_ok hspared hwrite
  rw [writeAll_of_renderAll _ hapart hrender] at hwrite
  obtain ⟨hmap, hall⟩ := Resolution.renderAll_eq_ok hrender
  have hkept : ∀ w : WorkDirectory, (outputs.foldl (record p executable) w).path = w.path ∧
      (outputs.foldl (record p executable) w).command = w.command := by
    intro w
    clear hrender hfiles hwrites hwrite hmap hall
    induction outputs generalizing w with
    | nil => exact ⟨rfl, rfl⟩
    | cons output rest ih => exact ih (record p executable w output)
  split at hwrite
  · cases hwrite
    refine ⟨(hkept _).1, (hkept _).2, outputs, hrender, by simpa using hfiles, ?_⟩
    intro file hmem
    rw [hfiles, List.nil_append] at hmem
    obtain ⟨output, houtput, rfl⟩ := List.mem_map.mp hmem
    have hsource : output.source ∈ sources := by
      rw [← hmap]
      exact List.mem_map_of_mem houtput
    have hentry := hnames _ hsource _ (hall output houtput).2
    -- nothing stood in the directory, so the output is what is found under its name
    have hfree : tree.node? (location ++ [output.name]) = none := by
      rw [← Option.not_isSome_iff_eq_none, ← FileTree.mem_childNames_iff, h.2]
      exact List.not_mem_nil
    have hplace := FileTree.place?_join h.1 hentry fun target htarget => by
      rw [hfree] at htarget
      cases htarget
    obtain ⟨last, -, hlast, -⟩ := exists_lastAt houtput hplace
    refine ⟨location, output.name, modeOf executable last.source, last.body.toUTF8,
      hwrites.ways.existing?_directory h.1, hentry, rfl, ?_⟩
    rw [hwrites.node?, hlast]
    rfl
  · cases hwrite

/-- A template cannot be rendered when it cannot be populated, or when its output cannot be
named. -/
theorem renderTemplate_eq_error {source : Path} (h : r.renderTemplate tree source = .error e) :
    r.populate tree source = .error e ∨
      ∃ body, r.populate tree source = .ok body ∧ r.outputName source = .error e := by
  rw [Resolution.renderTemplate] at h
  cases hbody : r.populate tree source with
  | error e' =>
    rw [hbody] at h
    cases h
    exact .inl rfl
  | ok body =>
    cases hname : r.outputName source with
    | error e' =>
      rw [hbody, hname] at h
      cases h
      exact .inr ⟨body, rfl, rfl⟩
    | ok name =>
      rw [hbody, hname] at h
      cases h

/-! ## Preparations -/

/-- The directory that is made is empty, and all nodes still stand in directories. -/
theorem exists_isEmptyDirectory (hconnected : tree.IsConnected)
    (hmake : tree.makeTemporary temporary temporaryStem = .ok (made, directory)) :
    made.IsConnected ∧ ∃ location, made.IsEmptyDirectory directory location := by
  have hgrown := FileTree.makeTemporary_eq_ok hmake
  exact ⟨FileTree.isConnected_puts hconnected (FileTree.puts_of_makeDirectory hgrown),
    FileTree.isEmptyDirectory_makeTemporary (c := 'e') hconnected (by decide) (by decide)
      (by decide) hmake⟩

/-- After the directory is made, preparing resolves the request and writes its templates. -/
theorem prepare_of_makeTemporary (root : Root) (request : Request)
    (hmake : tree.makeTemporary temporary temporaryStem = .ok (made, directory)) :
    prepare root tree request (.temporary temporary) =
      match Resolution.resolve root made request with
      | .error e => (made, .error e)
      | .ok r => write r made directory := by
  rewrite [prepare, Target.make, hmake]
  rfl

/-- Into an empty directory, writing begins with the file to execute and the list of
templates. -/
theorem write_of_isEmptyDirectory (h : tree.IsEmptyDirectory p location) :
    write r tree p =
      match r.settings.requiredFile with
      | .error e => (tree, .error e)
      | .ok executable =>
        match r.templateFiles tree with
        | .error e => (tree, .error e)
        | .ok sources =>
          writeAll r p executable sources tree ⟨p, [], none, r.settings.executionCommand⟩ := by
  have hdirectory : tree.isDirectory p = true :=
    FileTree.isDirectory_iff.mpr ⟨location, FileTree.existing?_eq_ok_iff.mp h.1⟩
  rewrite [write, if_pos hdirectory]
  rfl

/-- Where a request comes as far as its templates, preparing writes them into the directory. -/
theorem ComesToTemplates.prepare_eq (hconnected : tree.IsConnected)
    (h : ComesToTemplates root tree request temporary made directory r executable sources) :
    prepare root tree request (.temporary temporary) =
      writeAll r directory executable sources made
        ⟨directory, [], none, r.settings.executionCommand⟩ := by
  obtain ⟨-, location, hempty⟩ := exists_isEmptyDirectory hconnected h.making
  rw [prepare_of_makeTemporary root request h.making, h.resolving]
  dsimp only
  rw [write_of_isEmptyDirectory hempty, h.choosing]
  dsimp only
  rw [h.listing]

/-- A request comes as far as its templates, or its preparation stops before. -/
theorem comesToTemplates_or_stops (root : Root) (request : Request) (temporary : Path)
    (hconnected : tree.IsConnected) :
    (∃ made directory r executable sources,
      ComesToTemplates root tree request temporary made directory r executable sources) ∨
    ∃ final e, prepare root tree request (.temporary temporary) = (final, .error e) ∧
      PreparationStops root tree request temporary e := by
  cases hmake : tree.makeTemporary temporary temporaryStem with
  | error cause =>
    refine .inr ⟨tree, .file cause, ?_, .making hmake⟩
    rw [prepare, Target.make, hmake]
  | ok result =>
    obtain ⟨made, directory⟩ := result
    have hprepare := prepare_of_makeTemporary root request hmake
    obtain ⟨-, location, hempty⟩ := exists_isEmptyDirectory hconnected hmake
    cases hr : Resolution.resolve root made request with
    | error e =>
      refine .inr ⟨made, e, ?_, .resolving hmake hr⟩
      rw [hprepare, hr]
    | ok r =>
      rw [hr] at hprepare
      dsimp only at hprepare
      rw [write_of_isEmptyDirectory hempty] at hprepare
      cases hfile : r.settings.requiredFile with
      | error e =>
        refine .inr ⟨made, e, ?_, .choosing hmake hr hfile⟩
        rw [hprepare, hfile]
      | ok executable =>
        rw [hfile] at hprepare
        dsimp only at hprepare
        cases hsources : r.templateFiles made with
        | error e =>
          refine .inr ⟨made, e, ?_, .listing hmake hr hfile hsources⟩
          rw [hprepare, hsources]
        | ok sources =>
          exact .inl ⟨made, directory, r, executable, sources, hmake, hr, hfile, hsources⟩

/-- What is made of the templates of a request: all of them are rendered, and every listed path
leads to the output of one of them, a file directly in the directory. -/
structure WritesTemplates (made written : FileTree) (r : Resolution) (sources : List Path)
    (w : WorkDirectory) : Prop where
  /-- The command is the one that the settings give. -/
  command : w.command = r.settings.executionCommand
  /-- The listed paths are those of the outputs, in the order of the templates. -/
  rendered : ∃ outputs, r.renderAll made sources = .ok outputs ∧
    w.files = outputs.map fun output => w.path.join output.name
  /-- What the listed paths lead to. -/
  isFileIn : ∀ file ∈ w.files, IsFileIn written w.path file

/-- A preparation that comes to its end has written all templates. -/
theorem prepare_eq_ok (hconnected : tree.IsConnected)
    (h : prepare root tree request (.temporary temporary) = (written, .ok w)) :
    ∃ made r executable sources,
      ComesToTemplates root tree request temporary made w.path r executable sources ∧
      WritesTemplates made written r sources w := by
  obtain ⟨made, directory, r, executable, sources, hcomes⟩ | ⟨final, e, hstop, -⟩ :=
    comesToTemplates_or_stops root request temporary hconnected
  · obtain ⟨hmade, location, hempty⟩ := exists_isEmptyDirectory hconnected hcomes.making
    rw [hcomes.prepare_eq hconnected] at h
    obtain ⟨rfl, hcommand, outputs, hrender, hfiles, hall⟩ :=
      writeAll_of_isEmptyDirectory hempty hmade hcomes.listing h
    exact ⟨made, r, executable, sources, hcomes, hcommand, ⟨outputs, hrender, hfiles⟩, hall⟩
  · rw [hstop] at h
    cases h

/-- What stops the writes of the templates of a request. -/
theorem ComesToTemplates.stops (hconnected : tree.IsConnected)
    (h : ComesToTemplates root tree request temporary made directory r executable sources)
    (hwrite : writeAll r directory executable sources made
      ⟨directory, [], none, r.settings.executionCommand⟩ = (written, .error e)) :
    PreparationStops root tree request temporary e := by
  obtain ⟨hmade, location, hempty⟩ := exists_isEmptyDirectory hconnected h.making
  have hapart := readsApart_of_spared
    (sparesSources_of_isEmptyDirectory hempty hmade h.listing) h.listing
  cases hrender : r.renderAll made sources with
  | ok outputs =>
    rw [writeAll_of_renderAll _ hapart hrender] at hwrite
    split at hwrite
    · cases hwrite
    · rename_i final e' hrun
      cases hwrite
      rw [← List.append_nil sources] at h
      exact .writing h hrender hrun
  | error e' =>
    obtain ⟨before, failing, after, outputs, rfl, hbefore, hfailing⟩ :=
      Resolution.exists_of_renderAll_eq_error hrender
    rw [writeAll_of_failing _ hapart hbefore hfailing] at hwrite
    split at hwrite
    · rename_i final hrun
      cases hwrite
      rcases renderTemplate_eq_error hfailing with hbody | ⟨body, hbody, hname⟩
      · exact .populating h hbefore hrun hbody
      · exact .naming h hbefore hrun hbody hname
    · rename_i final e'' hrun
      cases hwrite
      exact .writing h hbefore hrun

/-- A template that cannot be rendered stops the preparation, once the outputs of those before it
are written. -/
theorem ComesToTemplates.prepare_of_failing (hconnected : tree.IsConnected) {failing : Path}
    {before after : List Path} {outputs : List RenderedTemplate}
    (h : ComesToTemplates root tree request temporary made directory r executable
      (before ++ failing :: after)) (hbefore : r.renderAll made before = .ok outputs)
    (hrun : writeOutputs directory executable outputs made = (written, .ok ()))
    (hfailing : r.renderTemplate made failing = .error e) :
    prepare root tree request (.temporary temporary) = (written, .error e) := by
  obtain ⟨hmade, location, hempty⟩ := exists_isEmptyDirectory hconnected h.making
  have hapart := readsApart_of_spared
    (sparesSources_of_isEmptyDirectory hempty hmade h.listing) h.listing
  rw [h.prepare_eq hconnected, writeAll_of_failing _ hapart hbefore hfailing, hrun]

/-- Preparing fails exactly with what stops it. -/
theorem prepare_eq_error_iff (hconnected : tree.IsConnected) :
    (∃ final, prepare root tree request (.temporary temporary) = (final, .error e)) ↔
      PreparationStops root tree request temporary e := by
  constructor
  · rintro ⟨final, h⟩
    obtain ⟨made, directory, r, executable, sources, hcomes⟩ | ⟨final', e', hstop, hstops⟩ :=
      comesToTemplates_or_stops root request temporary hconnected
    · rw [hcomes.prepare_eq hconnected] at h
      exact hcomes.stops hconnected h
    · rw [hstop] at h
      cases h
      exact hstops
  · intro h
    cases h with
    | @making cause hmake => exact ⟨tree, by rw [prepare, Target.make, hmake]⟩
    | @resolving made directory _ hmake hr =>
      exact ⟨made, by rw [prepare_of_makeTemporary root request hmake, hr]⟩
    | @choosing made directory r _ hmake hr hfile =>
      obtain ⟨-, location, hempty⟩ := exists_isEmptyDirectory hconnected hmake
      refine ⟨made, ?_⟩
      rw [prepare_of_makeTemporary root request hmake, hr]
      dsimp only
      rw [write_of_isEmptyDirectory hempty, hfile]
    | @listing made directory r executable _ hmake hr hfile hsources =>
      obtain ⟨-, location, hempty⟩ := exists_isEmptyDirectory hconnected hmake
      refine ⟨made, ?_⟩
      rw [prepare_of_makeTemporary root request hmake, hr]
      dsimp only
      rw [write_of_isEmptyDirectory hempty, hfile]
      dsimp only
      rw [hsources]
    | @populating made written directory failing r executable before after outputs _ hcomes hbefore
        hrun hbody =>
      have hfailing : r.renderTemplate made failing = .error e := by
        rw [Resolution.renderTemplate, hbody]
      exact ⟨written, hcomes.prepare_of_failing hconnected hbefore hrun hfailing⟩
    | @naming made written directory failing r executable body before after outputs _ hcomes hbefore
        hrun hbody hname =>
      have hfailing : r.renderTemplate made failing = .error e := by
        rw [Resolution.renderTemplate, hbody, hname]
      exact ⟨written, hcomes.prepare_of_failing hconnected hbefore hrun hfailing⟩
    | @writing made written directory r executable before after outputs _ hcomes hbefore hrun =>
      obtain ⟨hmade, location, hempty⟩ := exists_isEmptyDirectory hconnected hcomes.making
      have hapart := readsApart_of_spared
        (sparesSources_of_isEmptyDirectory hempty hmade hcomes.listing) hcomes.listing
      have hbeforeApart : ReadsApart made directory before :=
        hapart.mono fun source hmem => List.mem_append_left _ hmem
      refine ⟨written, ?_⟩
      rw [hcomes.prepare_eq hconnected, writeAll_append _ hbeforeApart hbefore, hrun]

end LayeredConfig.WorkDirectory
