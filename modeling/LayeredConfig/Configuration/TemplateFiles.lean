import LayeredConfig.Configuration.Resolution

/-!
# The templates of a resolution

Templates are looked for in four directories, from the most particular to the
most general, and the first file of a name stands for all of that name. A
template gives a body, and its own name gives the name of the output.
-/

namespace LayeredConfig

/-- A template ready to be shown or written. -/
structure RenderedTemplate where
  /-- The template file. -/
  source : Path
  /-- The name of the output. -/
  name : String
  /-- The text of the output. -/
  body : String
  deriving DecidableEq, Repr

namespace Resolution

/-- The directory of the templates of the variables' type. -/
def templateDirectory (r : Resolution) (tree : FileTree) : Except ConfigError Path :=
  match r.values.lookup? ConfigError.templateTypeVariable with
  | none => .error .templateTypeUndefined
  | some type =>
    match r.root.templatesDirectory tree r.settings with
    | .error e => .error e
    | .ok templates =>
      let directory := templates.join type
      if type = "" ∨ tree.isDirectory directory = false then
        .error (.directoryMissing .templateType directory)
      else .ok directory

/-- The directories that may hold templates, from the most particular on. -/
def candidateDirectories (r : Resolution) (directory : Path) : List Path :=
  let inEnvironment :=
    (directory.join r.settings.environmentsDirectory).join r.request.environment
  [ (inEnvironment.join r.settings.servicesDirectory).join r.request.service,
    (directory.join r.settings.servicesDirectory).join r.request.service,
    inEnvironment,
    directory ]

/-- Of paths with one name keep the first, leaving out names already seen. -/
def firstByName : (seen : List String) → List Path → List Path
  | _, [] => []
  | seen, p :: rest =>
    match p.fileName? with
    | none => firstByName seen rest
    | some name =>
      if name ∈ seen then firstByName seen rest else p :: firstByName (name :: seen) rest

/-- The files directly inside directories, directory by directory. -/
def filesIn (tree : FileTree) (directories : List Path) : List Path :=
  directories.flatMap fun directory => (Listing.scan tree directory .file).orEmpty

/-- The template files of a resolution. -/
def templateFiles (r : Resolution) (tree : FileTree) : Except ConfigError (List Path) :=
  match r.templateDirectory tree with
  | .ok directory => .ok (firstByName [] (filesIn tree (r.candidateDirectories directory)))
  | .error e => .error e

/-- The text of a template with its placeholders filled. -/
def populate (r : Resolution) (tree : FileTree) (source : Path) : Except ConfigError String :=
  match tree.fetchText source with
  | .error e => .error (.file e)
  | .ok text =>
    match r.renderer.render r.values text with
    | .ok body => .ok body
    | .error e => .error (.templateFile source e)

/-- The name of a template's output. -/
def outputName (r : Resolution) (source : Path) : Except ConfigError String :=
  match Template.FileName.expand r.fileNameDelimiters r.values source.baseName with
  | .ok name => .ok name
  | .error e => .error (.templateFile source e)

/-- Populate a template and name its output. -/
def renderTemplate (r : Resolution) (tree : FileTree) (source : Path) :
    Except ConfigError RenderedTemplate :=
  match r.populate tree source with
  | .error e => .error e
  | .ok body =>
    match r.outputName source with
    | .error e => .error e
    | .ok name => .ok ⟨source, name, body⟩

/-- Populate templates, up to the first failure. -/
def renderAll (r : Resolution) (tree : FileTree) :
    List Path → Except ConfigError (List RenderedTemplate)
  | [] => .ok []
  | source :: rest =>
    match r.renderTemplate tree source with
    | .error e => .error e
    | .ok rendered =>
      match renderAll r tree rest with
      | .error e => .error e
      | .ok more => .ok (rendered :: more)

/-- Populate all templates of a resolution without writing anything. -/
def renderTemplates (r : Resolution) (tree : FileTree) :
    Except ConfigError (List RenderedTemplate) :=
  match r.templateFiles tree with
  | .error e => .error e
  | .ok sources => r.renderAll tree sources

end Resolution

end LayeredConfig
