import LayeredConfig.Configuration.TemplateFiles
import LayeredConfig.Proofs.Files.Growth
import LayeredConfig.Proofs.Files.Listing
import Mathlib.Data.List.Basic

/-!
# What resolving a request reads

The variables of a request are read from the files of four directories. Besides,
it is only asked whether the directories of services and environments are there.
The templates are the files of four other directories. Two trees that agree there
give the same variables, the same templates, and the same failures.
-/

namespace LayeredConfig

variable {tree tree' : FileTree}

namespace Layer

variable {directory p : Path}

/-- Two trees have the same layer in a directory: the same files with the same contents. -/
structure Same (tree tree' : FileTree) (directory : Path) : Prop where
  /-- The same variable files are listed. -/
  files : Layer.files tree' directory = Layer.files tree directory
  /-- They have the same contents. -/
  contents : ∀ p ∈ Layer.files tree directory, tree'.fetch p = tree.fetch p

/-- A file with the same content has the same variables. -/
theorem ofFile_congr (h : tree'.fetch p = tree.fetch p) : ofFile tree' p = ofFile tree p := by
  rw [ofFile, ofFile, FileTree.fetchText, FileTree.fetchText, h]

/-- Files with the same contents are laid over variables with the same outcome. -/
theorem overlayFiles_congr {paths : List Path} (h : ∀ p ∈ paths, tree'.fetch p = tree.fetch p)
    (vars : Variables) : overlayFiles tree' paths vars = overlayFiles tree paths vars := by
  induction paths generalizing vars with
  | nil => rfl
  | cons p rest ih =>
    rw [overlayFiles, overlayFiles, ofFile_congr (h p List.mem_cons_self)]
    cases ofFile tree p with
    | error e => rfl
    | ok above => exact ih (fun other hmem => h other (List.mem_cons_of_mem p hmem)) _

/-- The same layer is loaded with the same outcome. -/
theorem Same.load_eq (h : Same tree tree' directory) : load tree' directory = load tree directory := by
  rw [load, load, h.files, overlayFiles_congr h.contents]

end Layer

namespace Root

variable {r : Root} {request : Request}

/-- The directories that must be there for the layers of every request. -/
def requiredDirectories (r : Root) : List Path :=
  [r.path.join r.settings.environmentsDirectory, r.path.join r.settings.servicesDirectory]

/-- The directories of the layers of a request, from the most general on. -/
def layerDirectories (r : Root) (request : Request) : List Path :=
  let environments := r.path.join r.settings.environmentsDirectory
  let services := r.path.join r.settings.servicesDirectory
  let inEnvironment := environments.join request.environment
  [ environments,
    inEnvironment,
    services.join request.service,
    (inEnvironment.join r.settings.servicesDirectory).join request.service ]

/-- Two trees agree on what the layers of a request are read from. -/
structure SameLayers (r : Root) (request : Request) (tree tree' : FileTree) : Prop where
  /-- The required directories are there in both or in neither. -/
  required : ∀ directory ∈ r.requiredDirectories,
    tree'.isDirectory directory = tree.isDirectory directory
  /-- The layers are the same. -/
  layers : ∀ directory ∈ r.layerDirectories request, Layer.Same tree tree' directory

/-- What is done with a required directory has the same outcome in both trees, if the directory is
there in both or in neither and the step has the same outcome. -/
theorem existingDirectory_then_congr {role : DirectoryRole} {name : String} {α : Type}
    {f f' : Path → Except ConfigError α}
    (h : tree'.isDirectory (r.path.join name) = tree.isDirectory (r.path.join name))
    (hstep : f' (r.path.join name) = f (r.path.join name)) :
    (match r.existingDirectory tree' role name with
      | .ok directory => f' directory
      | .error e => .error e) =
    (match r.existingDirectory tree role name with
      | .ok directory => f directory
      | .error e => .error e) := by
  rw [existingDirectory, existingDirectory, h]
  by_cases hd : tree.isDirectory (r.path.join name) = true
  · simp [hd, hstep]
  · simp [hd]

/-- Trees that agree on the layers of a request give the same variables, or the same failure. -/
theorem SameLayers.layeredVariables_eq (h : r.SameLayers request tree tree') :
    r.layeredVariables tree' request = r.layeredVariables tree request := by
  have henvironments := h.required (r.path.join r.settings.environmentsDirectory)
    (by simp [requiredDirectories])
  have hservices := h.required (r.path.join r.settings.servicesDirectory)
    (by simp [requiredDirectories])
  have hload := fun directory hmem => (h.layers directory hmem).load_eq
  have heverywhere : r.globalLayer tree' = r.globalLayer tree :=
    existingDirectory_then_congr henvironments (hload _ (by simp [layerDirectories]))
  have henvironment : r.environmentLayer tree' request.environment =
      r.environmentLayer tree request.environment :=
    existingDirectory_then_congr henvironments (hload _ (by simp [layerDirectories]))
  have hservice : r.serviceLayer tree' request.service = r.serviceLayer tree request.service :=
    existingDirectory_then_congr hservices (hload _ (by simp [layerDirectories]))
  have hhere : r.serviceInEnvironmentLayer tree' request.service request.environment =
      r.serviceInEnvironmentLayer tree request.service request.environment := by
    simp only [serviceInEnvironmentLayer, servicesDirectoryIn, environmentsDirectory,
      existingDirectory, henvironments]
    by_cases hd : tree.isDirectory (r.path.join r.settings.environmentsDirectory) = true
    · rw [if_pos hd]
      exact hload _ (by simp [layerDirectories])
    · rw [if_neg hd]
  rw [layeredVariables, layeredVariables, heverywhere, henvironment, hservice, hhere]

end Root

namespace Resolution

variable {root : Root} {request : Request} {r : Resolution}

/-- Trees that agree on the layers of a request resolve it to the same, or with the same
failure. -/
theorem resolve_congr (h : root.SameLayers request tree tree') :
    resolve root tree' request = resolve root tree request := by
  rw [resolve, resolve, h.layeredVariables_eq]

/-- Two trees agree on the templates of a resolution. -/
structure SameTemplates (r : Resolution) (tree tree' : FileTree) : Prop where
  /-- The directory of templates is there in both or in neither. -/
  templates : tree'.isDirectory (r.root.path.join r.settings.templatesDirectory) =
    tree.isDirectory (r.root.path.join r.settings.templatesDirectory)
  /-- So is the directory of the templates of the variables' type. -/
  type : ∀ type, r.values.lookup? ConfigError.templateTypeVariable = some type →
    tree'.isDirectory ((r.root.path.join r.settings.templatesDirectory).join type) =
      tree.isDirectory ((r.root.path.join r.settings.templatesDirectory).join type)
  /-- The same files are listed in the directories that may hold templates. -/
  files : ∀ directory, r.templateDirectory tree = .ok directory →
    ∀ candidate ∈ r.candidateDirectories directory,
      tree'.fileNames candidate = tree.fileNames candidate

end Resolution

end LayeredConfig
