import LayeredConfig.Proofs.Configuration.OutputCollisions
import LayeredConfig.Proofs.Configuration.TemplateSelection

/-!
# Printed and written outputs

Printing renders all templates from one tree. Writing renders each of them from
the tree that the writes before it left. As long as no output is written over a
template, every template is read as at the start, so writing is printing
followed by the writes of the outputs: it writes what is printed, in the order
of the list, and stops where printing stops.
-/

namespace LayeredConfig

namespace Resolution

variable {r : Resolution} {tree tree' : FileTree}

/-- A template is rendered in the same way, also when that fails, wherever it is read in the same
way. -/
theorem renderTemplate_congr {source : Path} (h : tree'.fetch source = tree.fetch source) :
    r.renderTemplate tree' source = r.renderTemplate tree source := by
  have htext : tree'.fetchText source = tree.fetchText source := by
    rw [FileTree.fetchText, FileTree.fetchText, h]
  have hbody : r.populate tree' source = r.populate tree source := by
    rw [populate, populate, htext]
  rw [renderTemplate, renderTemplate, hbody]

/-- Rendering stops at the first template that fails, after the outputs of those before it. -/
theorem exists_of_renderAll_eq_error {sources : List Path} {e : ConfigError}
    (h : r.renderAll tree sources = .error e) :
    ∃ before failing after outputs, sources = before ++ failing :: after ∧
      r.renderAll tree before = .ok outputs ∧ r.renderTemplate tree failing = .error e := by
  induction sources with
  | nil => cases h
  | cons source rest ih =>
    rw [renderAll] at h
    split at h
    · rename_i e' hfailing
      cases h
      exact ⟨[], source, rest, [], rfl, rfl, hfailing⟩
    · rename_i rendered hrendered
      split at h
      · rename_i e' hrest
        cases h
        obtain ⟨before, failing, after, outputs, rfl, hbefore, hfailing⟩ := ih hrest
        refine ⟨source :: before, failing, after, rendered :: outputs, rfl, ?_, hfailing⟩
        rw [renderAll, hrendered, hbefore]
      · cases h

/-- What is found in directories are files that stand directly in one of them. -/
theorem mem_filesIn_iff {directories : List Path} {source : Path} :
    source ∈ filesIn tree directories ↔
      ∃ directory ∈ directories, ∃ name, tree.HasFile directory name ∧
        directory.join name = source := by
  rw [filesIn, List.mem_flatMap]
  simp only [Listing.orEmpty_scan_file, List.mem_map, FileTree.mem_fileNames_iff]

/-- Listed templates are files. -/
theorem isFile_of_mem_templateFiles {sources : List Path} {source : Path}
    (h : r.templateFiles tree = .ok sources) (hmem : source ∈ sources) :
    tree.isFile source = true := by
  rw [templateFiles] at h
  split at h
  · cases h
    obtain ⟨directory, -, name, ⟨-, -, -, hfile⟩, rfl⟩ :=
      mem_filesIn_iff.mp (mem_of_mem_firstByName hmem)
    exact hfile
  · cases h

end Resolution

namespace WorkDirectory

variable {tree tree' : FileTree} {r : Resolution} {target : Path} {executable : String}
  {sources : List Path} {outputs : List RenderedTemplate}

/-- Write rendered outputs one after the other, up to the first write that fails. -/
def writeOutputs (target : Path) (executable : String) :
    List RenderedTemplate → FileTree → FileTree × Except ConfigError Unit
  | [], tree => (tree, .ok ())
  | output :: rest, tree =>
    match writeOutput tree (target.join output.name) output.body
        (modeOf executable output.source) with
    | (tree, .error e) => (tree, .error e)
    | (tree, .ok ()) => writeOutputs target executable rest tree

/-- All templates can be read, and no output is written over one. -/
structure ReadsApart (tree : FileTree) (target : Path) (sources : List Path) : Prop where
  /-- The place of a template is the place of no output. -/
  spared : SparesSources tree target sources
  /-- Every template has a content. -/
  readable : ∀ source ∈ sources, ∃ content, tree.fetch source = .ok content

/-- Fewer templates are apart as well. -/
theorem ReadsApart.mono {fewer : List Path} (h : ReadsApart tree target sources)
    (hmem : ∀ source ∈ fewer, source ∈ sources) : ReadsApart tree target fewer where
  spared := fun source hsource => h.spared source (hmem source hsource)
  readable := fun source hsource => h.readable source (hmem source hsource)

/-- A file written as an output leaves the templates apart and as they were. -/
theorem ReadsApart.writesFile (h : ReadsApart tree target sources) {name : String}
    (hslash : '/' ∉ name.toList) {location : Location} {node : Node}
    (hplace : tree.place? (target.join name) = some location)
    (hwritten : tree.WritesFile tree' location node) :
    ReadsApart tree' target sources ∧
      ∀ source ∈ sources, tree'.fetch source = tree.fetch source := by
  have hfetch : ∀ source ∈ sources, tree'.fetch source = tree.fetch source := by
    intro source hmem
    obtain ⟨content, hcontent⟩ := h.readable source hmem
    rw [hcontent, (h.spared.fetch_eq_ok_iff hmem hslash hplace hwritten content).mpr hcontent]
  refine ⟨⟨h.spared.of_sameWays hwritten.ways, ?_⟩, hfetch⟩
  intro source hmem
  obtain ⟨content, hcontent⟩ := h.readable source hmem
  exact ⟨content, by rw [hfetch source hmem, hcontent]⟩

/-- Written outputs leave the templates as they were. -/
theorem ReadsApart.fetch_eq (h : ReadsApart tree target sources)
    (hslash : ∀ output ∈ outputs, '/' ∉ output.name.toList)
    (hwrites : WritesOutputs target executable outputs tree tree') :
    ∀ source ∈ sources, tree'.fetch source = tree.fetch source := by
  induction hwrites with
  | done => exact fun source hmem => rfl
  | @next output rest tree written final location hplace hwritten _ ih =>
    obtain ⟨hwrittenApart, hfetch⟩ := h.writesFile (hslash output List.mem_cons_self) hplace hwritten
    have hrest := ih hwrittenApart fun other hmem => hslash other (List.mem_cons_of_mem output hmem)
    exact fun source hmem => (hrest source hmem).trans (hfetch source hmem)

/-- Outputs are written one after the other up to one that cannot be written. -/
def StopsWriting (target : Path) (executable : String) (outputs : List RenderedTemplate)
    (tree reached : FileTree) : Prop :=
  ∃ before output after, outputs = before ++ output :: after ∧
    WritesOutputs target executable before tree reached ∧
    ¬ reached.TakesFile (target.join output.name)

/-- Outputs that can all be written are written to the end. -/
theorem not_stopsWriting (h : ∀ output ∈ outputs, tree.TakesFile (target.join output.name)) :
    ¬ StopsWriting target executable outputs tree tree' := by
  rintro ⟨before, output, after, rfl, hwrites, hstopped⟩
  have htakes := h output (List.mem_append_right before List.mem_cons_self)
  exact hstopped (hwrites.ways.takesFile_iff.mpr htakes)

/-- Outputs that are written without a failure are written to the end. -/
theorem writeOutputs_eq_ok (h : writeOutputs target executable outputs tree = (tree', .ok ())) :
    WritesOutputs target executable outputs tree tree' := by
  induction outputs generalizing tree with
  | nil =>
    cases h
    exact .done
  | cons output rest ih =>
    rw [writeOutputs] at h
    split at h
    · cases h
    · rename_i written hwrite
      obtain ⟨location, hplace, hwritten⟩ := writeOutput_eq_ok hwrite
      exact .next hplace hwritten (ih h)

/-- Outputs that are not written to the end are written up to one that cannot be written. -/
theorem writeOutputs_eq_error {e : ConfigError}
    (h : writeOutputs target executable outputs tree = (tree', .error e)) :
    StopsWriting target executable outputs tree tree' ∧ ∃ cause, e = .file cause := by
  induction outputs generalizing tree with
  | nil => cases h
  | cons output rest ih =>
    rw [writeOutputs] at h
    split at h
    · rename_i hwrite
      cases h
      obtain ⟨rfl, hstopped, hcause⟩ := writeOutput_eq_error hwrite
      exact ⟨⟨[], output, rest, rfl, .done, hstopped⟩, hcause⟩
    · rename_i written hwrite
      obtain ⟨location, hplace, hwritten⟩ := writeOutput_eq_ok hwrite
      obtain ⟨⟨before, other, after, rfl, hwrites, hstopped⟩, hcause⟩ := ih h
      exact ⟨⟨output :: before, other, after, rfl, .next hplace hwritten hwrites, hstopped⟩,
        hcause⟩

/-- What a run that writes outputs leaves and comes to: all of them are written and it comes to the
given outcome, or one of them cannot be written and the run fails in the file system. -/
def EndsAfterWriting (target : Path) (executable : String) (outputs : List RenderedTemplate)
    (tree : FileTree) (outcome : Except ConfigError WorkDirectory)
    (ran : FileTree × Except ConfigError WorkDirectory) : Prop :=
  (∃ final, ran = (final, outcome) ∧ WritesOutputs target executable outputs tree final) ∨
    ∃ reached cause, ran = (reached, .error (.file cause)) ∧
      StopsWriting target executable outputs tree reached

/-- Writing outputs and then coming to an outcome ends with this outcome after writing. -/
theorem endsAfterWriting_writeOutputs (outcome : Except ConfigError WorkDirectory) :
    EndsAfterWriting target executable outputs tree outcome
      (match writeOutputs target executable outputs tree with
        | (written, .ok ()) => (written, outcome)
        | (written, .error e) => (written, .error e)) := by
  split
  · rename_i written hrun
    exact .inl ⟨written, rfl, writeOutputs_eq_ok hrun⟩
  · rename_i written e hrun
    obtain ⟨hstopped, cause, rfl⟩ := writeOutputs_eq_error hrun
    exact .inr ⟨written, cause, rfl, hstopped⟩

/-- A work directory with one more output. -/
def record (target : Path) (executable : String) (w : WorkDirectory)
    (output : RenderedTemplate) : WorkDirectory :=
  { w with
    files := w.files ++ [target.join output.name]
    entrypoint :=
      if output.source.baseName == executable then some (target.join output.name)
      else w.entrypoint }

/-- A work directory lists the recorded outputs in their order. -/
theorem files_foldl_record (w : WorkDirectory) :
    (outputs.foldl (record target executable) w).files =
      w.files ++ outputs.map fun output => target.join output.name := by
  induction outputs generalizing w with
  | nil => simp
  | cons output rest ih =>
    rw [List.foldl_cons, ih, record]
    simp

/-- Writing templates begins with the writes of the outputs that the first of them have in the
tree at the start, and goes on with the other templates. -/
theorem writeAll_append {before rest : List Path} (w : WorkDirectory)
    (h : ReadsApart tree target before) (houtputs : r.renderAll tree before = .ok outputs) :
    writeAll r target executable (before ++ rest) tree w =
      match writeOutputs target executable outputs tree with
      | (written, .error e) => (written, .error e)
      | (written, .ok ()) =>
        writeAll r target executable rest written (outputs.foldl (record target executable) w) := by
  -- on the templates in front: the tree changes with every write, but not what they are read as
  induction before generalizing tree outputs w with
  | nil =>
    cases houtputs
    rfl
  | cons source before ih =>
    rw [Resolution.renderAll] at houtputs
    split at houtputs
    · cases houtputs
    · rename_i rendered hrendered
      split at houtputs
      · cases houtputs
      · rename_i more hmore
        cases houtputs
        obtain ⟨rfl, -, hname⟩ := Resolution.renderTemplate_eq_ok_iff.mp hrendered
        have hslash := Resolution.slash_not_mem_outputName hname
        have hbefore : ReadsApart tree target before :=
          h.mono fun other hmem => List.mem_cons_of_mem rendered.source hmem
        rw [List.cons_append, writeAll, hrendered, writeOutputs, List.foldl_cons]
        dsimp only
        rw [← modeOf]
        cases hwrite : writeOutput tree (target.join rendered.name) rendered.body
            (modeOf executable rendered.source) with
        | mk written result =>
          cases result with
          | error e => rfl
          | ok done =>
            obtain ⟨location, hplace, hfile⟩ := writeOutput_eq_ok hwrite
            obtain ⟨hwritten, hfetch⟩ := hbefore.writesFile hslash hplace hfile
            have hmore' : r.renderAll written before = .ok more := by
              refine Resolution.renderAll_congr (fun other hmem content hcontent => ?_) hmore
              rw [hfetch other hmem, hcontent]
            exact ih _ hwritten hmore'

/-- Where there are no links, a target directory spares the files of all directories but itself. -/
theorem sparesSources_of_isLinkFree {directories : List Path} {location : Location}
    (hwell : tree.IsWellFormed) (hlinks : tree.IsLinkFree)
    (htarget : tree.existing? target = .ok (location, .directory))
    (hparent : tree.node? location.dropLast = some .directory)
    (hapart : ∀ directory ∈ directories, tree.place? directory ≠ some location) :
    SparesSources tree target (Resolution.filesIn tree directories) := by
  intro source hmem name hslash found hsource hfound
  obtain ⟨directory, hdirectory, fileName, hhas, rfl⟩ := Resolution.mem_filesIn_iff.mp hmem
  have hentry := FileTree.isEntryName_of_hasFile hwell hhas
  obtain ⟨inside, hinside, -, hfile⟩ := hhas
  have hplace := FileTree.place?_join hinside hentry (hlinks _)
  have hfoundInside : found = inside ++ [fileName] :=
    Option.some.inj (hsource.symm.trans hplace)
  obtain ⟨place, mode, content, hplace', hnode⟩ := FileTree.isFile_iff.mp hfile
  rw [hsource, Option.some.injEq] at hplace'
  subst hplace'
  rcases FileTree.place?_join_cases htarget hslash (hlinks _) hfound with rfl | rfl | rfl
  · have hsame : location = inside := (List.append_inj' hfoundInside rfl).1
    exact hapart directory hdirectory (hsame ▸ (FileTree.existing?_eq_ok_iff.mp hinside).1)
  · rw [(FileTree.existing?_eq_ok_iff.mp htarget).2] at hnode
    cases hnode
  · rw [hparent] at hnode
    cases hnode

/-- Listed templates can be read, so they are apart from a target directory that spares them. -/
theorem readsApart_of_spared (hspared : SparesSources tree target sources)
    (hsources : r.templateFiles tree = .ok sources) : ReadsApart tree target sources where
  spared := hspared
  readable := by
    intro source hmem
    obtain ⟨location, mode, content, hfound⟩ :=
      FileTree.isFile_iff.mp (Resolution.isFile_of_mem_templateFiles hsources hmem)
    exact ⟨content, FileTree.fetch_eq_ok_iff.mpr ⟨location, mode, hfound⟩⟩

/-- The templates of a resolution are apart from a target directory that spares the files in the
candidate directories. -/
theorem readsApart_of_templateFiles
    (hspared : ∀ directory, r.templateDirectory tree = .ok directory →
      SparesSources tree target (Resolution.filesIn tree (r.candidateDirectories directory)))
    (hsources : r.templateFiles tree = .ok sources) : ReadsApart tree target sources := by
  refine readsApart_of_spared ?_ hsources
  rw [Resolution.templateFiles] at hsources
  split at hsources
  · rename_i directory hdirectory
    cases hsources
    intro source hmem
    exact hspared directory hdirectory source (Resolution.mem_of_mem_firstByName hmem)
  · cases hsources

/-- Writing into an existing directory writes the listed templates. -/
theorem write_eq_writeAll (htarget : tree.isDirectory target = true)
    (hfile : r.settings.requiredFile = .ok executable)
    (hsources : r.templateFiles tree = .ok sources) :
    write r tree target = writeAll r target executable sources tree
      ⟨target, [], none, r.settings.executionCommand⟩ := by
  rw [write, if_pos htarget, hfile]
  dsimp only
  rw [hsources]

/-- Where all templates are printed, writing them writes what is printed. -/
theorem writeAll_of_renderAll (w : WorkDirectory) (h : ReadsApart tree target sources)
    (houtputs : r.renderAll tree sources = .ok outputs) :
    writeAll r target executable sources tree w =
      match writeOutputs target executable outputs tree with
      | (written, .ok ()) => (written, .ok (outputs.foldl (record target executable) w))
      | (written, .error e) => (written, .error e) := by
  have hwrite : writeAll r target executable (sources ++ []) tree w = _ :=
    writeAll_append w h houtputs
  rw [List.append_nil] at hwrite
  rw [hwrite]
  split
  · rename_i written e hrun
    rw [hrun]
  · rename_i written hrun
    rw [hrun]
    rfl

/-- Where printing stops at a template, writing writes the outputs of those before it and stops
there. -/
theorem writeAll_of_failing {before after : List Path} {failing : Path} {e : ConfigError}
    (w : WorkDirectory) (h : ReadsApart tree target (before ++ failing :: after))
    (houtputs : r.renderAll tree before = .ok outputs)
    (hfailing : r.renderTemplate tree failing = .error e) :
    writeAll r target executable (before ++ failing :: after) tree w =
      match writeOutputs target executable outputs tree with
      | (written, .ok ()) => (written, .error e)
      | (written, .error e) => (written, .error e) := by
  have hbefore : ReadsApart tree target before :=
    h.mono fun source hmem => List.mem_append_left _ hmem
  have hslash := Resolution.slash_not_mem_of_renderAll houtputs
  rw [writeAll_append w hbefore houtputs]
  split
  · rename_i written e' hrun
    rw [hrun]
  · rename_i written hrun
    -- the failing template is read as at the start, so it fails as at the start
    have hsame := h.fetch_eq hslash (writeOutputs_eq_ok hrun) failing
      (List.mem_append_right _ List.mem_cons_self)
    rw [writeAll, Resolution.renderTemplate_congr hsame, hfailing, hrun]

/-- Into an existing directory apart from the templates, what is written is what is printed. If
all templates are printed, their outputs are written in the order of the list, each as a file of
its text and permission bits at its path, and are listed by their paths. If printing stops at a
template, the outputs of those before it are written in this way and nothing else, and writing
stops there with the same failure. A write stops earlier only at an output whose path leads to
no place for a file, after the outputs before this one, and fails in the file system. -/
theorem write_of_renderTemplates (htarget : tree.isDirectory target = true)
    (hfile : r.settings.requiredFile = .ok executable)
    (hspared : ∀ directory, r.templateDirectory tree = .ok directory →
      SparesSources tree target (Resolution.filesIn tree (r.candidateDirectories directory))) :
    (∀ outputs, r.renderTemplates tree = .ok outputs →
      ∃ w : WorkDirectory, w.files = outputs.map (fun output => target.join output.name) ∧
        EndsAfterWriting target executable outputs tree (.ok w) (write r tree target)) ∧
    ∀ e, r.renderTemplates tree = .error e →
      (r.templateFiles tree = .error e ∧ write r tree target = (tree, .error e)) ∨
      ∃ before failing after outputs,
        r.templateFiles tree = .ok (before ++ failing :: after) ∧
        r.renderAll tree before = .ok outputs ∧ r.renderTemplate tree failing = .error e ∧
        EndsAfterWriting target executable outputs tree (.error e) (write r tree target) := by
  constructor
  · intro outputs houtputs
    rw [Resolution.renderTemplates] at houtputs
    split at houtputs
    · cases houtputs
    · rename_i sources hsources
      have hapart := readsApart_of_templateFiles hspared hsources
      refine ⟨outputs.foldl (record target executable)
        ⟨target, [], none, r.settings.executionCommand⟩, by simp [files_foldl_record], ?_⟩
      rw [write_eq_writeAll htarget hfile hsources, writeAll_of_renderAll _ hapart houtputs]
      exact endsAfterWriting_writeOutputs _
  · intro e he
    rw [Resolution.renderTemplates] at he
    split at he
    · rename_i e' hsources
      cases he
      left
      refine ⟨hsources, ?_⟩
      rw [write, if_pos htarget, hfile]
      dsimp only
      rw [hsources]
    · rename_i sources hsources
      obtain ⟨before, failing, after, outputs, rfl, hbefore, hfailing⟩ :=
        Resolution.exists_of_renderAll_eq_error he
      have hapart := readsApart_of_templateFiles hspared hsources
      right
      refine ⟨before, failing, after, outputs, hsources, hbefore, hfailing, ?_⟩
      rw [write_eq_writeAll htarget hfile hsources, writeAll_of_failing _ hapart hbefore hfailing]
      exact endsAfterWriting_writeOutputs _

/-- A configuration with a start script, and a template that asks for a variable without a
value. -/
def zoneTree : FileTree :=
  ⟨.ofList
    [ (["c"], .directory),
      (["c", "exconf.yaml"], .file 0o644 ("services_dir_name: s\ntemplates_dir_name: t\n" ++
        "environments_dir_name: e\ntemplate_type: app\nexecution_file: run\nhost: db\n").toUTF8),
      (["c", "e"], .directory),
      (["c", "s"], .directory),
      (["c", "t"], .directory),
      (["c", "t", "app"], .directory),
      (["c", "t", "app", "run"], .file 0o644 "ping \x7b\x7bhost\x7d\x7d\n".toUTF8),
      (["c", "t", "app", "zone"], .file 0o644 "\x7b\x7bzone\x7d\x7d\n".toUTF8),
      (["out"], .directory) ], []⟩

/-- The target directory of the configuration is apart from its templates. -/
theorem sparesSources_zoneTree
    (hdirectory : (r.templateDirectory zoneTree).toOption = some ⟨"/c/t/app"⟩)
    (hapart : ∀ directory ∈ r.candidateDirectories ⟨"/c/t/app"⟩,
      zoneTree.place? directory ≠ some ["out"]) :
    ∀ directory, r.templateDirectory zoneTree = .ok directory →
      SparesSources zoneTree ⟨"/out"⟩
        (Resolution.filesIn zoneTree (r.candidateDirectories directory)) := by
  intro directory hother
  rw [eq_ok_of_toOption hdirectory] at hother
  cases hother
  exact sparesSources_of_isLinkFree (by decide +kernel) (by decide +kernel) (by decide +kernel)
    (by decide +kernel) hapart

/-- With strict bodies printing stops at the second template, and writing stops there after the
output of the first one. With lenient bodies both outputs are printed and written. -/
theorem write_of_printed_zone :
    ∃ root strict lenient e outputs w stopped final,
      Root.openAt zoneTree ⟨"/c"⟩ = .ok root ∧
      Resolution.resolve root zoneTree (.ofNames "web" "prod") = .ok strict ∧
      strict.withBodyRequirement false = .ok lenient ∧
      strict.renderTemplates zoneTree = .error e ∧
      write strict zoneTree ⟨"/out"⟩ = (stopped, .error e) ∧
      stopped.node? ["out", "run"] = some (.file executableMode "ping db\n".toUTF8) ∧
      stopped.node? ["out", "zone"] = none ∧
      lenient.renderTemplates zoneTree = .ok outputs ∧
      write lenient zoneTree ⟨"/out"⟩ = (final, .ok w) ∧
      w.files = [⟨"/out/run"⟩, ⟨"/out/zone"⟩] ∧
      final.node? ["out", "run"] = some (.file executableMode "ping db\n".toUTF8) ∧
      final.node? ["out", "zone"] =
        some (.file outputMode "\x7b\x7bzone\x7d\x7d\n".toUTF8) := by
  let start : RenderedTemplate := ⟨⟨"/c/t/app/run"⟩, "run", "ping db\n"⟩
  let zone : RenderedTemplate := ⟨⟨"/c/t/app/zone"⟩, "zone", "\x7b\x7bzone\x7d\x7d\n"⟩
  have hrun : ((Root.openAt zoneTree ⟨"/c"⟩).bind fun root =>
      (Resolution.resolve root zoneTree (.ofNames "web" "prod")).bind fun strict =>
        (strict.withBodyRequirement false).bind fun lenient => .ok <| decide <|
          strict.settings.requiredFile.toOption = some "run" ∧
          lenient.settings.requiredFile.toOption = some "run" ∧
          (strict.templateDirectory zoneTree).toOption = some ⟨"/c/t/app"⟩ ∧
          (lenient.templateDirectory zoneTree).toOption = some ⟨"/c/t/app"⟩ ∧
          strict.candidateDirectories ⟨"/c/t/app"⟩ = lenient.candidateDirectories ⟨"/c/t/app"⟩ ∧
          (∀ directory ∈ lenient.candidateDirectories ⟨"/c/t/app"⟩,
            zoneTree.place? directory ≠ some ["out"]) ∧
          (strict.templateFiles zoneTree).toOption = some [start.source, zone.source] ∧
          (strict.renderTemplate zoneTree start.source).toOption = some start ∧
          (strict.renderTemplates zoneTree).toOption = none ∧
          (lenient.renderTemplates zoneTree).toOption = some [start, zone]).toOption =
      some true := by
    decide +kernel
  have htakes : ∀ output ∈ [start, zone], zoneTree.TakesFile (Path.join ⟨"/out"⟩ output.name) := by
    have hfree : ∀ output ∈ [start, zone],
        zoneTree.place? (Path.join ⟨"/out"⟩ output.name) = some ["out", output.name] ∧
          FileTree.onward (zoneTree.node? ["out", output.name]) = none := by decide +kernel
    exact fun output hmem => ⟨_, hfree output hmem⟩
  obtain ⟨root, hroot, hrun⟩ := exists_of_toOption_bind hrun
  obtain ⟨strict, hstrict, hrun⟩ := exists_of_toOption_bind hrun
  obtain ⟨lenient, hlenient, hrun⟩ := exists_of_toOption_bind hrun
  obtain ⟨hfile, hfile', hdirectory, hdirectory', hsame, hapart, hsources, hstart, hfails,
    hprinted⟩ := of_decide_eq_true (Option.some.inj hrun)
  obtain ⟨-, hstops⟩ := write_of_renderTemplates (by decide +kernel) (eq_ok_of_toOption hfile)
    (sparesSources_zoneTree hdirectory (hsame ▸ hapart))
  obtain ⟨hwrites, -⟩ := write_of_renderTemplates (by decide +kernel) (eq_ok_of_toOption hfile')
    (sparesSources_zoneTree hdirectory' hapart)
  obtain ⟨w, hfiles, ⟨final, hwrite', hboth⟩ | ⟨final, cause, -, hstopped⟩⟩ :=
    hwrites _ (eq_ok_of_toOption hprinted)
  swap
  · exact absurd hstopped (not_stopsWriting htakes)
  cases he : strict.renderTemplates zoneTree with
  | ok printed =>
    rw [he] at hfails
    cases hfails
  | error e =>
    obtain ⟨hnone, -⟩ | ⟨before, failing, after, outputs, hsplit, hbefore, hfailing, hwrite⟩ :=
      hstops e he
    · rw [hnone] at hsources
      cases hsources
    · have hfirst := eq_ok_of_toOption hstart
      rw [eq_ok_of_toOption hsources, Except.ok.injEq] at hsplit
      -- the first template does not fail, so it is the one before the failing one
      obtain rfl : before = [start.source] := by
        rcases before with _ | ⟨first, _ | ⟨second, more⟩⟩
        · cases hsplit
          rw [hfirst] at hfailing
          cases hfailing
        · cases hsplit
          rfl
        · simp at hsplit
      rw [Resolution.renderAll, hfirst, Resolution.renderAll] at hbefore
      cases hbefore
      obtain ⟨stopped, hwrite, hone⟩ | ⟨stopped, cause, -, hstopped⟩ := hwrite
      swap
      · exact absurd hstopped
          (not_stopsWriting fun output hmem => htakes output (List.mem_append_left [zone] hmem))
      refine ⟨root, strict, lenient, e, _, w, stopped, final, hroot, hstrict, hlenient, he, hwrite,
        ?_, ?_, eq_ok_of_toOption hprinted, hwrite', hfiles.trans (by decide +kernel), ?_, ?_⟩
      · exact (hone.node? _).trans (by decide +kernel)
      · exact (hone.node? _).trans (by decide +kernel)
      · exact (hboth.node? _).trans (by decide +kernel)
      · exact (hboth.node? _).trans (by decide +kernel)

end WorkDirectory

end LayeredConfig
