import LayeredConfig.Configuration.Error
import LayeredConfig.Files.Access
import LayeredConfig.Value.Text
import LayeredConfig.Yaml.Document

/-!
# Layers of variables

A layer is what the YAML files directly inside one directory say, merged in the
order of their names. A directory that does not exist is told apart from an
empty one, so that the caller decides what its absence means.
-/

namespace LayeredConfig

/-- Which entries of a directory are listed. -/
inductive EntryKind where
  /-- Regular files, also through links. -/
  | file
  /-- Directories, also through links. -/
  | directory
  deriving DecidableEq, Repr

/-- What listing a directory gives. -/
inductive Listing where
  /-- The matching entries, by name. -/
  | found (paths : List Path)
  /-- The directory does not exist. -/
  | missing (directory : Path)
  deriving DecidableEq, Repr

namespace Listing

/-- The path leads to an entry of the kind. -/
def isKind (tree : FileTree) (kind : EntryKind) (p : Path) : Bool :=
  match kind with
  | .file => tree.isFile p
  | .directory => tree.isDirectory p

/-- List the entries of a kind directly inside a directory. -/
def scan (tree : FileTree) (directory : Path) (kind : EntryKind) : Listing :=
  match tree.names directory with
  | .error _ => .missing directory
  | .ok names => .found ((names.map directory.join).filter (isKind tree kind))

/-- A missing directory has no entries. -/
def orEmpty : Listing → List Path
  | .found paths => paths
  | .missing _ => []

/-- A missing directory is a failure. -/
def required (role : DirectoryRole) : Listing → Except ConfigError (List Path)
  | .found paths => .ok paths
  | .missing directory => .error (.directoryMissing role directory)

end Listing

namespace Layer

/-- The variables of the entries of a mapping; of two entries with one name the later stands. -/
def ofEntries : List (Value × Value) → Variables → Except LayerFault Variables
  | [], vars => .ok vars
  | (key, value) :: rest, vars =>
    match key.name? with
    | none => .error (.unsupportedName key)
    | some name => ofEntries rest (vars.insert name value)

/-- The variables of a document: none for null, else a mapping. -/
def ofDocument : Value → Except LayerFault Variables
  | .null => .ok SortedMap.empty
  | .mapping entries => ofEntries entries SortedMap.empty
  | _ => .error .notMapping

/-- The variables of a text. -/
def ofText (text : String) : Except LayerFault Variables :=
  match Yaml.read text with
  | .error e => .error (.notYaml e.message)
  | .ok document => ofDocument document

/-- Read the variables of a file. -/
def ofFile (tree : FileTree) (p : Path) : Except ConfigError Variables :=
  match tree.fetchText p with
  | .error e => .error (.file e)
  | .ok text =>
    match ofText text with
    | .ok vars => .ok vars
    | .error fault => .error (.invalidLayerFile p fault)

/-- The files of a layer, by name. -/
def files (tree : FileTree) (directory : Path) : List Path :=
  (Listing.scan tree directory .file).orEmpty.filter Path.isYaml

/-- Lay the variables of files over variables, one file after the other. -/
def overlayFiles (tree : FileTree) : List Path → Variables → Except ConfigError Variables
  | [], vars => .ok vars
  | p :: rest, vars =>
    match ofFile tree p with
    | .error e => .error e
    | .ok above => overlayFiles tree rest (vars.overlay above)

/-- Load the layer of a directory. -/
def load (tree : FileTree) (directory : Path) : Except ConfigError Variables :=
  overlayFiles tree (files tree directory) SortedMap.empty

end Layer

end LayeredConfig
