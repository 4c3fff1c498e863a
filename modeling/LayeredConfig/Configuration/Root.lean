import LayeredConfig.Configuration.Layer
import LayeredConfig.Configuration.Settings

/-!
# Configuration roots

A configuration root is a directory with a descriptor. The descriptor's
variables, together with the path of the root, give the settings by which the
directories of services, environments and templates are found.
-/

namespace LayeredConfig

/-- An opened configuration root. -/
structure Root where
  /-- The absolute path. -/
  path : Path
  /-- The variables of the descriptor, with the path of the root. -/
  descriptor : Variables
  /-- The settings of the descriptor. -/
  settings : Settings

namespace Root

/-- The variable that holds the path of the root. -/
def pathVariable : String := "exconf_configuration_root"

/-- A configuration root is there: the directory has a descriptor. -/
def isThere (tree : FileTree) (p : Path) : Bool :=
  tree.isFile (p.join ConfigError.descriptorName)

/-- Find the configuration root: the given path, else the one of the
environment, else the current directory if it is one. -/
def locate (tree : FileTree) (given environment : Option Path) (current : Path) :
    Except ConfigError Path :=
  match given, environment with
  | some p, _ => .ok p
  | none, some p => .ok p
  | none, none => if isThere tree current then .ok current else .error .rootNotGiven

/-- Open the configuration root at a path. -/
def openAt (tree : FileTree) (p : Path) : Except ConfigError Root :=
  if isThere tree p then
    match tree.canonicalize p with
    | .error e => .error (.file e)
    | .ok path =>
      match Layer.ofFile tree (path.join ConfigError.descriptorName) with
      | .error e => .error e
      | .ok vars =>
        let descriptor := vars.insert pathVariable (.string path.text)
        match Settings.ofVariables descriptor with
        | .error e => .error e
        | .ok settings => .ok ⟨path, descriptor, settings⟩
  else .error (.descriptorMissing p)

/-- Find and open the configuration root. -/
def discover (tree : FileTree) (given environment : Option Path) : Except ConfigError Root :=
  match locate tree given environment tree.current.path with
  | .error e => .error e
  | .ok p => openAt tree p

/-- A directory of the root, which must exist. -/
def existingDirectory (r : Root) (tree : FileTree) (role : DirectoryRole) (name : String) :
    Except ConfigError Path :=
  let directory := r.path.join name
  if tree.isDirectory directory then .ok directory
  else .error (.directoryMissing role directory)

/-- The directory of services. -/
def servicesDirectory (r : Root) (tree : FileTree) (s : Settings) : Except ConfigError Path :=
  r.existingDirectory tree .services s.servicesDirectory

/-- The directory of environments. -/
def environmentsDirectory (r : Root) (tree : FileTree) (s : Settings) : Except ConfigError Path :=
  r.existingDirectory tree .environments s.environmentsDirectory

/-- The directory of templates. -/
def templatesDirectory (r : Root) (tree : FileTree) (s : Settings) : Except ConfigError Path :=
  r.existingDirectory tree .templates s.templatesDirectory

/-- The directory of services inside an environment, which need not exist. -/
def servicesDirectoryIn (r : Root) (tree : FileTree) (s : Settings) (environment : String) :
    Except ConfigError Path :=
  match r.environmentsDirectory tree s with
  | .ok directory => .ok ((directory.join environment).join s.servicesDirectory)
  | .error e => .error e

/-- The names of the directories inside a directory. -/
def subdirectoryNames (tree : FileTree) (directory : Path) (role : DirectoryRole) :
    Except ConfigError (List String) :=
  match (Listing.scan tree directory .directory).required role with
  | .ok paths => .ok (paths.filterMap Path.fileName?)
  | .error e => .error e

/-- The names of the services. -/
def serviceNames (r : Root) (tree : FileTree) : Except ConfigError (List String) :=
  match r.servicesDirectory tree r.settings with
  | .ok directory => subdirectoryNames tree directory .services
  | .error e => .error e

/-- The names of the environments. -/
def environmentNames (r : Root) (tree : FileTree) : Except ConfigError (List String) :=
  match r.environmentsDirectory tree r.settings with
  | .ok directory => subdirectoryNames tree directory .environments
  | .error e => .error e

end Root

end LayeredConfig
