import LayeredConfig.Configuration.WorkDirectory
import LayeredConfig.Proofs.Files.Listing
import LayeredConfig.Proofs.Files.Writing
import LayeredConfig.Proofs.Outcome
import LayeredConfig.Proofs.Template.SafeNames
import Mathlib.Data.List.Nodup

/-!
# When written outputs stay

Templates are told apart by their own names, but their outputs are written
under expanded names. Outputs are written from the most particular template
on, so of two outputs at one place the later and more general one stands. All
outputs stay exactly when no two different ones meet.
-/

namespace LayeredConfig

namespace Resolution

variable {r : Resolution} {tree tree' : FileTree}

/-- The name of an output has no slash. -/
theorem slash_not_mem_outputName {source : Path} {name : String}
    (h : r.outputName source = .ok name) : '/' ∉ name.toList := by
  rw [outputName] at h
  split at h
  · rename_i hexpand
    cases h
    exact Template.FileName.slash_not_mem_expand hexpand source.slash_not_mem_baseName
  · cases h

/-- Rendering a template populates it and names its output. -/
theorem renderTemplate_eq_ok_iff {source : Path} {rendered : RenderedTemplate} :
    r.renderTemplate tree source = .ok rendered ↔
      rendered.source = source ∧ r.populate tree source = .ok rendered.body ∧
        r.outputName source = .ok rendered.name := by
  rw [renderTemplate]
  cases r.populate tree source with
  | error e => simp
  | ok body =>
    cases r.outputName source with
    | error e => simp
    | ok name =>
      obtain ⟨source', name', body'⟩ := rendered
      simp only [Except.ok.injEq, RenderedTemplate.mk.injEq]
      constructor
      · rintro ⟨rfl, rfl, rfl⟩
        exact ⟨rfl, rfl, rfl⟩
      · rintro ⟨rfl, rfl, rfl⟩
        exact ⟨rfl, rfl, rfl⟩

/-- A template is populated in the same way wherever it has the same content. -/
theorem populate_congr {source : Path} {body : String}
    (h : ∀ content, tree'.fetch source = .ok content → tree.fetch source = .ok content)
    (hbody : r.populate tree' source = .ok body) : r.populate tree source = .ok body := by
  rw [populate, FileTree.fetchText] at hbody
  cases hfetch : tree'.fetch source with
  | error e =>
    rw [hfetch] at hbody
    cases hbody
  | ok content =>
    rw [hfetch] at hbody
    rw [populate, FileTree.fetchText, h content hfetch]
    exact hbody

/-- Templates are rendered in the same way wherever they have the same content. -/
theorem renderAll_congr {sources : List Path} {outputs : List RenderedTemplate}
    (h : ∀ source ∈ sources, ∀ content,
      tree'.fetch source = .ok content → tree.fetch source = .ok content)
    (houtputs : r.renderAll tree' sources = .ok outputs) :
    r.renderAll tree sources = .ok outputs := by
  induction sources generalizing outputs with
  | nil => exact houtputs
  | cons source rest ih =>
    rw [renderAll] at houtputs
    split at houtputs
    · cases houtputs
    · rename_i rendered hrendered
      split at houtputs
      · cases houtputs
      · rename_i more hmore
        cases houtputs
        obtain ⟨hsource, hbody, hname⟩ := renderTemplate_eq_ok_iff.mp hrendered
        have hbody' := populate_congr (h source List.mem_cons_self) hbody
        have hrest := ih (fun other hmem => h other (List.mem_cons_of_mem _ hmem)) hmore
        rw [renderAll, renderTemplate_eq_ok_iff.mpr ⟨hsource, hbody', hname⟩, hrest]

/-- Selecting by name adds no paths. -/
theorem mem_of_mem_firstByName {seen : List String} {paths : List Path} {p : Path}
    (h : p ∈ firstByName seen paths) : p ∈ paths := by
  induction paths generalizing seen with
  | nil => cases h
  | cons first rest ih =>
    rw [firstByName] at h
    split at h
    · exact List.mem_cons_of_mem _ (ih h)
    · split at h
      · exact List.mem_cons_of_mem _ (ih h)
      · rcases List.mem_cons.mp h with rfl | h
        · exact List.mem_cons_self
        · exact List.mem_cons_of_mem _ (ih h)

/-- All templates that are rendered have their own output. -/
theorem renderAll_eq_ok {sources : List Path} {outputs : List RenderedTemplate}
    (h : r.renderAll tree sources = .ok outputs) :
    outputs.map RenderedTemplate.source = sources ∧
      ∀ output ∈ outputs, r.populate tree output.source = .ok output.body ∧
        r.outputName output.source = .ok output.name := by
  induction sources generalizing outputs with
  | nil =>
    cases h
    simp
  | cons source rest ih =>
    rw [renderAll] at h
    split at h
    · cases h
    · rename_i rendered hrendered
      split at h
      · cases h
      · rename_i more hmore
        cases h
        obtain ⟨rfl, hbody, hname⟩ := renderTemplate_eq_ok_iff.mp hrendered
        obtain ⟨hsources, hall⟩ := ih hmore
        refine ⟨by rw [List.map_cons, hsources], fun output hmem => ?_⟩
        rcases List.mem_cons.mp hmem with rfl | hmem
        · exact ⟨hbody, hname⟩
        · exact hall output hmem

/-- No output of rendered templates has a slash in its name. -/
theorem slash_not_mem_of_renderAll {sources : List Path} {outputs : List RenderedTemplate}
    (h : r.renderAll tree sources = .ok outputs) :
    ∀ output ∈ outputs, '/' ∉ output.name.toList := fun output hmem =>
  slash_not_mem_outputName ((renderAll_eq_ok h).2 output hmem).2

end Resolution

namespace WorkDirectory

variable {tree tree' final : FileTree} {r : Resolution} {target : Path} {executable : String}

/-- The permission bits of the output of a template. -/
def modeOf (executable : String) (source : Path) : Nat :=
  if source.baseName == executable then executableMode else outputMode

/-- The file that an output is written as. -/
def outputFile (executable : String) (output : RenderedTemplate) : Node :=
  .file (modeOf executable output.source) output.body.toUTF8

/-- Writing an output writes its file at the place of its path. -/
theorem writeOutput_eq_ok {p : Path} {body : String} {mode : Nat}
    (h : writeOutput tree p body mode = (tree', .ok ())) :
    ∃ location, tree.place? p = some location ∧
      tree.WritesFile tree' location (.file mode body.toUTF8) := by
  rw [writeOutput] at h
  split at h
  · cases h
  · rename_i written hstore
    split at h
    · cases h
    · rename_i finished hmode
      cases h
      obtain ⟨location, old, hplace, hwritten⟩ := FileTree.store_eq_ok hstore
      have hplace' : written.place? p = some location := by rw [hwritten.ways.place?, hplace]
      have hnode : written.node? location = some (.file old body.toUTF8) := by
        rw [hwritten.node?, if_pos rfl]
      exact ⟨location, hplace, hwritten.trans (FileTree.setMode_eq_ok hplace' hnode hmode)⟩

/-- A write of an output fails in the file system, where no file can be written. It leaves
everything as it was. -/
theorem writeOutput_eq_error {p : Path} {body : String} {mode : Nat} {e : ConfigError}
    (h : writeOutput tree p body mode = (tree', .error e)) :
    tree' = tree ∧ ¬ tree.TakesFile p ∧ ∃ cause, e = .file cause := by
  rw [writeOutput] at h
  split at h
  · rename_i cause hstore
    cases h
    exact ⟨rfl, FileTree.not_takesFile_of_store hstore, cause, rfl⟩
  · rename_i written hstore
    -- a file that was stored has permission bits to set
    obtain ⟨location, old, hplace, hwritten⟩ := FileTree.store_eq_ok hstore
    have hexisting : written.existing? p = .ok (location, .file old body.toUTF8) :=
      FileTree.existing?_eq_ok_iff.mpr
        ⟨by rw [hwritten.ways.place?, hplace], by rw [hwritten.node?, if_pos rfl]⟩
    rw [FileTree.setMode, hexisting] at h
    cases h

/-- The last output that is written at a place. -/
def lastAt (tree : FileTree) (target : Path) (outputs : List RenderedTemplate)
    (location : Location) : Option RenderedTemplate :=
  outputs.reverse.find? fun output => tree.place? (target.join output.name) = some location

/-- An output is the last one at its place unless there is one among those after it. -/
theorem lastAt_cons (output : RenderedTemplate) (outputs : List RenderedTemplate)
    (location : Location) :
    lastAt tree target (output :: outputs) location =
      (lastAt tree target outputs location).or
        (if tree.place? (target.join output.name) = some location then some output else none) := by
  simp only [lastAt, List.reverse_cons, List.find?_append, List.find?_singleton,
    decide_eq_true_eq]

/-- The last output at a place is the same where the ways are the same. -/
theorem lastAt_of_sameWays (h : tree.SameWays tree') (outputs : List RenderedTemplate)
    (location : Location) :
    lastAt tree' target outputs location = lastAt tree target outputs location := by
  simp only [lastAt, h.place?]

/-- Outputs are written one after the other: each as a file of its own permission bits and text, at
the place of its path, with everything else left as it is. -/
inductive WritesOutputs (target : Path) (executable : String) :
    List RenderedTemplate → FileTree → FileTree → Prop
  /-- No output is left. -/
  | done {tree : FileTree} : WritesOutputs target executable [] tree tree
  /-- The first output is written, and then the others. -/
  | next {output : RenderedTemplate} {rest : List RenderedTemplate}
      {tree written final : FileTree} {location : Location} :
      tree.place? (target.join output.name) = some location →
      tree.WritesFile written location (outputFile executable output) →
      WritesOutputs target executable rest written final →
      WritesOutputs target executable (output :: rest) tree final

namespace WritesOutputs

variable {outputs : List RenderedTemplate}

/-- Directories and links stand where they stood before the outputs were written. -/
theorem ways (h : WritesOutputs target executable outputs tree final) : tree.SameWays final := by
  induction h with
  | done => exact .refl _
  | next _ hwritten _ ih => exact hwritten.ways.trans ih

/-- Outputs are written only where files can be. -/
theorem takesFile (h : WritesOutputs target executable outputs tree final) :
    ∀ output ∈ outputs, tree.TakesFile (target.join output.name) := by
  induction h with
  | done => exact fun output hmem => absurd hmem List.not_mem_nil
  | next hplace hwritten _ ih =>
    intro output hmem
    rcases List.mem_cons.mp hmem with rfl | hmem
    · exact ⟨_, hplace, hwritten.free⟩
    · exact hwritten.ways.takesFile_iff.mp (ih output hmem)

/-- When outputs are written, the last one of a place stands there, and everything else is as
before. -/
theorem node? (h : WritesOutputs target executable outputs tree final) (location : Location) :
    final.node? location =
      ((lastAt tree target outputs location).map (outputFile executable)).or
        (tree.node? location) := by
  induction h with
  | done => rfl
  | @next output rest tree written final place hplace hwritten _ ih =>
    rw [ih, lastAt_of_sameWays hwritten.ways, lastAt_cons, hplace, hwritten.node?]
    cases lastAt tree target rest location with
    | some last => simp
    | none => by_cases hl : place = location <;> simp [hl]

end WritesOutputs

/-- No template is written over: the place of a template is the place of no output. -/
def SparesSources (tree : FileTree) (target : Path) (sources : List Path) : Prop :=
  ∀ source ∈ sources, ∀ name, '/' ∉ name.toList → ∀ location,
    tree.place? source = some location → tree.place? (target.join name) ≠ some location

/-- A target directory spares the same templates where the ways are the same. -/
theorem SparesSources.of_sameWays {sources : List Path} (h : SparesSources tree target sources)
    (hways : tree.SameWays tree') : SparesSources tree' target sources := by
  intro source hmem name hslash location hplace
  rw [hways.place?] at hplace ⊢
  exact h source hmem name hslash location hplace

/-- A template that is spared has its content when an output is written as when it is not. -/
theorem SparesSources.fetch_eq_ok_iff {sources : List Path} (h : SparesSources tree target sources)
    {source : Path} (hmem : source ∈ sources) {name : String} (hslash : '/' ∉ name.toList)
    {location : Location} {node : Node} (hplace : tree.place? (target.join name) = some location)
    (hwritten : tree.WritesFile tree' location node) (content : ByteArray) :
    tree'.fetch source = .ok content ↔ tree.fetch source = .ok content :=
  hwritten.fetch_eq_ok_iff fun hsource => h source hmem name hslash location hsource hplace

/-- What is written are the outputs that the templates give in the tree at the start. -/
theorem writeAll_eq_ok {sources : List Path} {w w' : WorkDirectory}
    (hspared : SparesSources tree target sources)
    (h : writeAll r target executable sources tree w = (final, .ok w')) :
    ∃ outputs, r.renderAll tree sources = .ok outputs ∧
      w'.files = w.files ++ outputs.map (fun output => target.join output.name) ∧
      WritesOutputs target executable outputs tree final := by
  induction sources generalizing tree w with
  | nil =>
    rw [writeAll] at h
    cases h
    exact ⟨[], rfl, by simp, .done⟩
  | cons source rest ih =>
    rw [writeAll] at h
    split at h
    · cases h
    · rename_i rendered hrendered
      obtain ⟨rfl, -, hname⟩ := Resolution.renderTemplate_eq_ok_iff.mp hrendered
      have hslash := Resolution.slash_not_mem_outputName hname
      dsimp only at h
      split at h
      · cases h
      · rename_i tree₁ hwrite
        obtain ⟨location, hplace, hwritten⟩ := writeOutput_eq_ok hwrite
        have hrestSpared : SparesSources tree target rest :=
          fun other hmem => hspared other (List.mem_cons_of_mem _ hmem)
        obtain ⟨outputs, hrender, hfiles, hwrites⟩ := ih (hrestSpared.of_sameWays hwritten.ways) h
        -- the templates that are left are read as at the start
        have hrest : r.renderAll tree rest = .ok outputs :=
          Resolution.renderAll_congr (fun other hmem content =>
            (hrestSpared.fetch_eq_ok_iff hmem hslash hplace hwritten content).mp) hrender
        refine ⟨rendered :: outputs, ?_, ?_, .next hplace hwritten hwrites⟩
        · rw [Resolution.renderAll, hrendered, hrest]
        · rw [hfiles]
          simp

/-- The paths of outputs are pairwise different, and each leads to the output of its own template
with its own permission bits. -/
def KeepsOutputs (final : FileTree) (target : Path) (executable : String)
    (outputs : List RenderedTemplate) : Prop :=
  (outputs.map fun output => target.join output.name).Nodup ∧
    ∀ output ∈ outputs, final.Holds (target.join output.name)
      (modeOf executable output.source) output.body.toUTF8

/-- Two outputs do not spoil one another: if their paths lead to one place, they have the same
text and the same permission bits. -/
def Compatible (tree : FileTree) (target : Path) (executable : String)
    (output other : RenderedTemplate) : Prop :=
  tree.place? (target.join output.name) = tree.place? (target.join other.name) →
    output.body = other.body ∧ modeOf executable output.source = modeOf executable other.source

/-- An output is compatible with itself. -/
theorem Compatible.refl (output : RenderedTemplate) :
    Compatible tree target executable output output := fun _ => ⟨rfl, rfl⟩

/-- It does not matter which of two compatible outputs is written first. -/
theorem Compatible.symm {output other : RenderedTemplate}
    (h : Compatible tree target executable output other) :
    Compatible tree target executable other output := by
  intro hplace
  obtain ⟨hbody, hmode⟩ := h hplace.symm
  exact ⟨hbody.symm, hmode.symm⟩

/-- Outputs are written as the same file when text and permission bits agree. -/
theorem outputFile_eq_iff {output other : RenderedTemplate} :
    outputFile executable output = outputFile executable other ↔
      output.body = other.body ∧
        modeOf executable output.source = modeOf executable other.source := by
  rw [outputFile, outputFile, Node.file.injEq]
  constructor
  · rintro ⟨hmode, hbody⟩
    exact ⟨String.toByteArray_inj.mp hbody, hmode⟩
  · rintro ⟨hbody, hmode⟩
    exact ⟨hmode, congrArg String.toUTF8 hbody⟩

/-- A place of an output has a last output, which is one of those at this place. -/
theorem exists_lastAt {outputs : List RenderedTemplate} {output : RenderedTemplate}
    {location : Location} (hmem : output ∈ outputs)
    (hplace : tree.place? (target.join output.name) = some location) :
    ∃ last ∈ outputs, lastAt tree target outputs location = some last ∧
      tree.place? (target.join last.name) = some location := by
  have hsome : (lastAt tree target outputs location).isSome = true := by
    rw [lastAt, List.find?_isSome]
    exact ⟨output, List.mem_reverse.mpr hmem, by simpa using hplace⟩
  obtain ⟨last, hlast⟩ := Option.isSome_iff_exists.mp hsome
  refine ⟨last, ?_, hlast, ?_⟩
  · exact List.mem_reverse.mp (List.mem_of_find?_eq_some hlast)
  · simpa using List.find?_some hlast

/-- When outputs are written, all of them stay exactly when their names are pairwise different and
those that share a place agree. -/
theorem keepsOutputs_iff {outputs : List RenderedTemplate}
    (hslash : ∀ output ∈ outputs, '/' ∉ output.name.toList)
    (h : WritesOutputs target executable outputs tree final) :
    KeepsOutputs final target executable outputs ↔
      (outputs.map RenderedTemplate.name).Nodup ∧
      outputs.Pairwise (Compatible tree target executable) := by
  have hholds : ∀ output location, tree.place? (target.join output.name) = some location →
      (final.Holds (target.join output.name) (modeOf executable output.source)
        output.body.toUTF8 ↔ final.node? location = some (outputFile executable output)) := by
    intro output location hplace
    exact FileTree.holds_iff (by rw [h.ways.place?, hplace])
  constructor
  · rintro ⟨hnodup, hall⟩
    constructor
    · refine List.Nodup.of_map target.join ?_
      rwa [List.map_map]
    · refine List.pairwise_of_forall_mem_list fun output hmem other hother hsame => ?_
      obtain ⟨location, hplace, -⟩ := h.takesFile output hmem
      have houtput := (hholds output location hplace).mp (hall output hmem)
      have hother := (hholds other location (hsame ▸ hplace)).mp (hall other hother)
      rw [houtput] at hother
      exact outputFile_eq_iff.mp (Option.some.inj hother)
  · rintro ⟨hnodup, hagree⟩
    constructor
    · have hinj : ∀ name ∈ outputs.map RenderedTemplate.name,
          ∀ other ∈ outputs.map RenderedTemplate.name,
          target.join name = target.join other → name = other := by
        intro name hname other hother he
        obtain ⟨output, hmem, rfl⟩ := List.mem_map.mp hname
        obtain ⟨output', hmem', rfl⟩ := List.mem_map.mp hother
        exact target.join_injective (hslash output hmem) (hslash output' hmem') he
      have hjoined := List.Nodup.map_on hinj hnodup
      rwa [List.map_map] at hjoined
    · intro output hmem
      obtain ⟨location, hplace, -⟩ := h.takesFile output hmem
      obtain ⟨last, hlastMem, hlast, hlastPlace⟩ := exists_lastAt hmem hplace
      rw [hholds output location hplace, h.node?, hlast]
      have hcompatible : Compatible tree target executable last output :=
        List.Pairwise.forall_of_forall_of_flip (fun one _ => Compatible.refl one) hagree
          (hagree.imp Compatible.symm) hlastMem hmem
      have hsame := outputFile_eq_iff.mpr (hcompatible (hlastPlace.trans hplace.symm))
      rw [Option.map_some, Option.some_or, hsame]

/-- An empty target directory spares all files that are not in it. -/
theorem sparesSources_of_empty {sources : List Path} {location : Location}
    (htarget : tree.existing? target = .ok (location, .directory))
    (hempty : tree.childNames location = [])
    (hparent : tree.node? location.dropLast = some .directory)
    (hsources : ∀ source ∈ sources, tree.isFile source = true ∧
      (tree.place? source).map List.dropLast ≠ some location) :
    SparesSources tree target sources := by
  intro source hmem name hslash found hsource hfound
  obtain ⟨hfile, hapart⟩ := hsources source hmem
  obtain ⟨place, mode, content, hplace, hnode⟩ := FileTree.isFile_iff.mp hfile
  rw [hsource] at hplace hapart
  cases hplace
  have hlink : ∀ link, tree.node? (location ++ [name]) ≠ some (.link link) := by
    intro link hentry
    have hchild : name ∈ tree.childNames location :=
      FileTree.mem_childNames_iff.mpr (by rw [hentry]; rfl)
    rw [hempty] at hchild
    cases hchild
  rcases FileTree.place?_join_cases htarget hslash hlink hfound with rfl | rfl | rfl
  · simp at hapart
  · rw [(FileTree.existing?_eq_ok_iff.mp htarget).2] at hnode
    cases hnode
  · rw [hparent] at hnode
    cases hnode

/-- Writing the templates of a resolution into a directory apart from them lists the path of
every template's output, and the last output of a path's place stands there. All outputs stay,
under different paths, exactly when the output names are pairwise different and outputs that
share a place agree. -/
theorem write_eq_ok {w : WorkDirectory}
    (hspared : ∀ directory, r.templateDirectory tree = .ok directory →
      SparesSources tree target (Resolution.filesIn tree (r.candidateDirectories directory)))
    (h : write r tree target = (final, .ok w)) :
    ∃ executable outputs, r.settings.requiredFile = .ok executable ∧
      r.templateFiles tree = .ok (outputs.map RenderedTemplate.source) ∧
      (∀ output ∈ outputs, r.populate tree output.source = .ok output.body ∧
        r.outputName output.source = .ok output.name) ∧
      w.files = outputs.map (fun output => target.join output.name) ∧
      (∀ output ∈ outputs, ∀ location,
        tree.place? (target.join output.name) = some location →
          ∃ last ∈ outputs, lastAt tree target outputs location = some last ∧
            final.Holds (target.join output.name) (modeOf executable last.source)
              last.body.toUTF8) ∧
      (KeepsOutputs final target executable outputs ↔
        (outputs.map RenderedTemplate.name).Nodup ∧
          outputs.Pairwise (Compatible tree target executable)) := by
  rw [write] at h
  split at h
  · split at h
    · cases h
    · rename_i executable hexecutable
      split at h
      · cases h
      · rename_i sources hsources
        have hspared' : SparesSources tree target sources := by
          rw [Resolution.templateFiles] at hsources
          split at hsources
          · rename_i directory hdirectory
            cases hsources
            intro source hmem
            exact hspared directory hdirectory source (Resolution.mem_of_mem_firstByName hmem)
          · cases hsources
        obtain ⟨outputs, hrender, hfiles, hwrites⟩ := writeAll_eq_ok hspared' h
        obtain ⟨hmap, hall⟩ := Resolution.renderAll_eq_ok hrender
        refine ⟨executable, outputs, hexecutable, hmap ▸ hsources, hall, by simpa using hfiles,
          ?_, keepsOutputs_iff (Resolution.slash_not_mem_of_renderAll hrender) hwrites⟩
        intro output hmem location hplace
        obtain ⟨last, hlastMem, hlast, -⟩ := exists_lastAt hmem hplace
        refine ⟨last, hlastMem, hlast, ?_⟩
        rw [FileTree.holds_iff (by rw [hwrites.ways.place?, hplace]), hwrites.node?, hlast]
        rfl
  · cases h

/-- A configuration with a start script for one service, and a template that is named for the
service wherever there is no other. -/
def collisionTree : FileTree :=
  ⟨.ofList
    [ (["c"], .directory),
      (["c", "exconf.yaml"], .file 0o644 ("services_dir_name: s\n" ++ "templates_dir_name: t\n" ++
        "environments_dir_name: e\ntemplate_type: app\nexecution_file: web\n").toUTF8),
      (["c", "e"], .directory),
      (["c", "s"], .directory),
      (["c", "t"], .directory),
      (["c", "t", "app"], .directory),
      (["c", "t", "app", "___service___"], .file 0o644 "default\n".toUTF8),
      (["c", "t", "app", "s"], .directory),
      (["c", "t", "app", "s", "web"], .directory),
      (["c", "t", "app", "s", "web", "web"], .file 0o644 "start\n".toUTF8),
      (["out"], .directory) ], []⟩

/-- The empty target directory of the configuration is apart from its templates. -/
theorem sparesSources_collisionTree
    (hdirectory : (r.templateDirectory collisionTree).toOption = some ⟨"/c/t/app"⟩)
    (hsources : ∀ source ∈ Resolution.filesIn collisionTree
        (r.candidateDirectories ⟨"/c/t/app"⟩),
      collisionTree.isFile source = true ∧
        (collisionTree.place? source).map List.dropLast ≠ some ["out"]) :
    ∀ directory, r.templateDirectory collisionTree = .ok directory →
      SparesSources collisionTree ⟨"/out"⟩
        (Resolution.filesIn collisionTree (r.candidateDirectories directory)) := by
  intro directory hother
  rw [eq_ok_of_toOption hdirectory] at hother
  cases hother
  exact sparesSources_of_empty (by decide +kernel) (by decide +kernel) (by decide +kernel)
    hsources

/-- When the service goes by another name in the variables, both templates of the same
configuration keep their outputs. -/
theorem outputs_stay_apart :
    ∃ root r final w executable outputs,
      Root.openAt collisionTree ⟨"/c"⟩ = .ok root ∧
      Resolution.resolve root collisionTree
        ⟨"web", "prod", .ofList [("service", .string "api")], true⟩ = .ok r ∧
      write r collisionTree ⟨"/out"⟩ = (final, .ok w) ∧
      w.files = outputs.map (fun output => Path.join ⟨"/out"⟩ output.name) ∧
      w.files = [⟨"/out/web"⟩, ⟨"/out/api"⟩] ∧
      KeepsOutputs final ⟨"/out"⟩ executable outputs := by
  have hrun : ((Root.openAt collisionTree ⟨"/c"⟩).bind fun root =>
      (Resolution.resolve root collisionTree
        ⟨"web", "prod", .ofList [("service", .string "api")], true⟩).bind fun r =>
        (write r collisionTree ⟨"/out"⟩).2.bind fun w => .ok <| decide <|
          (r.templateDirectory collisionTree).toOption = some ⟨"/c/t/app"⟩ ∧
          (∀ source ∈ Resolution.filesIn collisionTree
              (r.candidateDirectories ⟨"/c/t/app"⟩),
            collisionTree.isFile source = true ∧
              (collisionTree.place? source).map List.dropLast ≠ some ["out"]) ∧
          w.files = [⟨"/out/web"⟩, ⟨"/out/api"⟩]).toOption = some true := by
    decide +kernel
  obtain ⟨root, hroot, hrun⟩ := exists_of_toOption_bind hrun
  obtain ⟨r, hr, hrun⟩ := exists_of_toOption_bind hrun
  obtain ⟨w, hw, hrun⟩ := exists_of_toOption_bind hrun
  obtain ⟨hdirectory, hsources, hlisted⟩ := of_decide_eq_true (Option.some.inj hrun)
  have hwrite : write r collisionTree ⟨"/out"⟩ =
      ((write r collisionTree ⟨"/out"⟩).1, .ok w) := Prod.ext rfl hw
  obtain ⟨executable, outputs, -, -, -, hfiles, -, hiff⟩ :=
    write_eq_ok (sparesSources_collisionTree hdirectory hsources) hwrite
  have hdifferent : w.files.Pairwise fun p other =>
      p ≠ other ∧ collisionTree.place? p ≠ collisionTree.place? other := by
    rw [hlisted]
    decide +kernel
  rw [hfiles, List.pairwise_map] at hdifferent
  refine ⟨root, r, _, w, executable, outputs, hroot, hr, hwrite, hfiles, hlisted,
    hiff.mpr ⟨?_, ?_⟩⟩
  · refine List.pairwise_map.mpr (hdifferent.imp fun {output other} hne he => hne.1 ?_)
    rw [he]
  · exact hdifferent.imp fun {output other} hne hsame => absurd hsame hne.2

/-- Both templates are written to one path, the general one last: the file to execute is neither
executable nor what its template says. -/
theorem entrypoint_is_written_over :
    ∃ root r final w executable outputs,
      Root.openAt collisionTree ⟨"/c"⟩ = .ok root ∧
      Resolution.resolve root collisionTree (.ofNames "web" "prod") = .ok r ∧
      (∀ directory, r.templateDirectory collisionTree = .ok directory →
        SparesSources collisionTree ⟨"/out"⟩
          (Resolution.filesIn collisionTree (r.candidateDirectories directory))) ∧
      write r collisionTree ⟨"/out"⟩ = (final, .ok w) ∧
      r.settings.requiredFile = .ok executable ∧
      r.renderTemplates collisionTree = .ok outputs ∧
      w.files = outputs.map (fun output => Path.join ⟨"/out"⟩ output.name) ∧
      ¬ KeepsOutputs final ⟨"/out"⟩ executable outputs ∧
      w.entrypoint = some ⟨"/out/web"⟩ ∧
      final.Holds ⟨"/out/web"⟩ outputMode "default\n".toUTF8 := by
  let shared : List RenderedTemplate :=
    [ ⟨⟨"/c/t/app/s/web/web"⟩, "web", "start\n"⟩,
      ⟨⟨"/c/t/app/___service___"⟩, "web", "default\n"⟩ ]
  have hrun : ((Root.openAt collisionTree ⟨"/c"⟩).bind fun root =>
      (Resolution.resolve root collisionTree (.ofNames "web" "prod")).bind fun r =>
        (write r collisionTree ⟨"/out"⟩).2.bind fun w => .ok <| decide <|
          (r.templateDirectory collisionTree).toOption = some ⟨"/c/t/app"⟩ ∧
          (∀ source ∈ Resolution.filesIn collisionTree
              (r.candidateDirectories ⟨"/c/t/app"⟩),
            collisionTree.isFile source = true ∧
              (collisionTree.place? source).map List.dropLast ≠ some ["out"]) ∧
          r.settings.requiredFile.toOption = some "web" ∧
          (r.renderTemplates collisionTree).toOption = some shared ∧
          w.files = shared.map (fun output => Path.join ⟨"/out"⟩ output.name) ∧
          w.entrypoint = some ⟨"/out/web"⟩ ∧
          ((write r collisionTree ⟨"/out"⟩).1.existing? ⟨"/out/web"⟩).toOption =
            some (["out", "web"], .file outputMode "default\n".toUTF8)).toOption =
      some true := by
    decide +kernel
  obtain ⟨root, hroot, hrun⟩ := exists_of_toOption_bind hrun
  obtain ⟨r, hr, hrun⟩ := exists_of_toOption_bind hrun
  obtain ⟨w, hw, hrun⟩ := exists_of_toOption_bind hrun
  obtain ⟨hdirectory, hsources, hfile, houtputs, hfiles, hentrypoint, hexisting⟩ :=
    of_decide_eq_true (Option.some.inj hrun)
  refine ⟨root, r, _, w, "web", shared, hroot, hr,
    sparesSources_collisionTree hdirectory hsources, Prod.ext rfl hw, eq_ok_of_toOption hfile,
    eq_ok_of_toOption houtputs, hfiles, ?_, hentrypoint, _, eq_ok_of_toOption hexisting⟩
  intro hkeeps
  exact absurd hkeeps.1 (by decide)

end WorkDirectory

end LayeredConfig
