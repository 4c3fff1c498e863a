import LayeredConfig.Configuration.Request
import LayeredConfig.Configuration.Root

/-!
# Resolving variables

The variables of a request are laid over one another from the general to the
particular: the descriptor with the names of service and environment, the
variables of all environments, of the environment, of the service, of the
service in the environment, and the extra ones. Then every value is expanded.
-/

namespace LayeredConfig

/-- The outcome of resolving a request. Templates are found and rendered by it alone. -/
structure Resolution where
  /-- The configuration root. -/
  root : Root
  /-- The request. -/
  request : Request
  /-- The expanded variables. -/
  values : Variables
  /-- The settings that the expanded variables hold. -/
  settings : Settings
  /-- The renderer for template bodies. -/
  renderer : Template.Renderer
  /-- The delimiters of tokens in file names. -/
  fileNameDelimiters : Template.Delimiters

namespace Root

/-- The variables of all services in all environments. -/
def globalLayer (r : Root) (tree : FileTree) : Except ConfigError Variables :=
  match r.environmentsDirectory tree r.settings with
  | .ok directory => Layer.load tree directory
  | .error e => .error e

/-- The variables of all services in an environment. -/
def environmentLayer (r : Root) (tree : FileTree) (environment : String) :
    Except ConfigError Variables :=
  match r.environmentsDirectory tree r.settings with
  | .ok directory => Layer.load tree (directory.join environment)
  | .error e => .error e

/-- The variables of a service in all environments. -/
def serviceLayer (r : Root) (tree : FileTree) (service : String) :
    Except ConfigError Variables :=
  match r.servicesDirectory tree r.settings with
  | .ok directory => Layer.load tree (directory.join service)
  | .error e => .error e

/-- The variables of a service in an environment. -/
def serviceInEnvironmentLayer (r : Root) (tree : FileTree) (service environment : String) :
    Except ConfigError Variables :=
  match r.servicesDirectoryIn tree r.settings environment with
  | .ok directory => Layer.load tree (directory.join service)
  | .error e => .error e

/-- The variable that holds the name of the service. -/
def serviceVariable : String := "service"

/-- The variable that holds the name of the environment. -/
def environmentVariable : String := "environment"

/-- The variables that lie below all layers. -/
def baseVariables (r : Root) (request : Request) : Variables :=
  (r.descriptor.insert serviceVariable (.string request.service)).insert environmentVariable
    (.string request.environment)

/-- Lay all layers of a request over one another, without expanding values. -/
def layeredVariables (r : Root) (tree : FileTree) (request : Request) :
    Except ConfigError Variables := do
  let everywhere ← r.globalLayer tree
  let environment ← r.environmentLayer tree request.environment
  let service ← r.serviceLayer tree request.service
  let here ← r.serviceInEnvironmentLayer tree request.service request.environment
  pure (((((r.baseVariables request).overlay everywhere).overlay environment).overlay
    service).overlay here |>.overlay request.extra)

end Root

namespace Resolution

/-- The resolution that expanded variables give. -/
def ofVariables (root : Root) (request : Request) (vars : Variables) :
    Except ConfigError Resolution := do
  let settings ← Settings.ofVariables vars
  let renderer ← settings.renderer request.requireAll
  let fileNameDelimiters ← settings.fileNameDelimiters
  pure ⟨root, request, vars, settings, renderer, fileNameDelimiters⟩

/-- Expand variables by the settings that they hold themselves. -/
def expand (vars : Variables) (requireAll : Bool) : Except ConfigError Variables := do
  let settings ← Settings.ofVariables vars
  let renderer ← settings.renderer requireAll
  match renderer.renderVariables vars with
  | .ok expanded => pure expanded
  | .error e => .error (.template e)

/-- Resolve a request. -/
def resolve (root : Root) (tree : FileTree) (request : Request) :
    Except ConfigError Resolution := do
  let layered ← root.layeredVariables tree request
  let expanded ← expand layered request.requireAll
  ofVariables root request expanded

/-- Say anew whether a placeholder without a value in a template body is a
failure. The variables stay. -/
def withBodyRequirement (r : Resolution) (requireAll : Bool) : Except ConfigError Resolution :=
  match r.settings.renderer requireAll with
  | .ok renderer =>
    .ok { r with renderer := renderer, request := r.request.withRequirement requireAll }
  | .error e => .error e

end Resolution

end LayeredConfig
