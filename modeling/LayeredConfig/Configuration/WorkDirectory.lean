import LayeredConfig.Configuration.TemplateFiles

/-!
# Work directories

All templates of a resolution are written into one directory under the names
of their outputs. The template that the settings name becomes executable.
What is written before a failure stays.
-/

namespace LayeredConfig

/-- The permission bits of written files. -/
def outputMode : Nat := 0o640

/-- The permission bits of the file to execute. -/
def executableMode : Nat := 0o770

/-- A directory with the outputs of all templates. -/
structure WorkDirectory where
  /-- The absolute path. -/
  path : Path
  /-- The written files, in the order of their templates. -/
  files : List Path
  /-- The file to execute, if a template matches it. -/
  entrypoint : Option Path
  /-- The command to execute. -/
  command : Option String
  deriving DecidableEq, Repr

namespace WorkDirectory

/-- The command to execute, which must be given. -/
def requiredCommand (w : WorkDirectory) : Except ConfigError String :=
  match w.command with
  | some command => .ok command
  | none => .error (.missingSetting .executionCommand)

/-- The names of the written files. -/
def fileNames (w : WorkDirectory) : List String := w.files.map Path.baseName

/-- Write a file with permission bits. -/
def writeOutput (tree : FileTree) (p : Path) (body : String) (mode : Nat) :
    FileTree × Except ConfigError Unit :=
  match tree.store p body.toUTF8 with
  | .error e => (tree, .error (.file e))
  | .ok written =>
    match written.setMode p mode with
    | .error e => (written, .error (.file e))
    | .ok finished => (finished, .ok ())

/-- Write the outputs of templates one after the other, up to the first failure. -/
def writeAll (r : Resolution) (target : Path) (executable : String) :
    List Path → FileTree → WorkDirectory → FileTree × Except ConfigError WorkDirectory
  | [], tree, w => (tree, .ok w)
  | source :: rest, tree, w =>
    match r.renderTemplate tree source with
    | .error e => (tree, .error e)
    | .ok rendered =>
      let p := target.join rendered.name
      let isEntrypoint := source.baseName == executable
      match writeOutput tree p rendered.body (if isEntrypoint then executableMode else outputMode) with
      | (tree, .error e) => (tree, .error e)
      | (tree, .ok ()) =>
        writeAll r target executable rest tree
          { w with
            files := w.files ++ [p]
            entrypoint := if isEntrypoint then some p else w.entrypoint }

/-- Write the templates of a resolution into a directory. -/
def write (r : Resolution) (tree : FileTree) (target : Path) :
    FileTree × Except ConfigError WorkDirectory :=
  if tree.isDirectory target then
    match r.settings.requiredFile with
    | .error e => (tree, .error e)
    | .ok executable =>
      match r.templateFiles tree with
      | .error e => (tree, .error e)
      | .ok sources =>
        writeAll r target executable sources tree ⟨target, [], none, r.settings.executionCommand⟩
  else (tree, .error (.directoryMissing .target target))

/-- Where a work directory is prepared. -/
inductive Target where
  /-- A given directory, made if it is missing. -/
  | directory (path : Path)
  /-- A new directory inside the one for temporary files. -/
  | temporary (inside : Path)
  deriving DecidableEq, Repr

/-- What the names of temporary work directories start with. -/
def temporaryStem : String := "exconf-"

/-- Make the directory of a target and find its absolute path. Ancestors that are
made before a failure stay. -/
def Target.make (target : Target) (tree : FileTree) : FileTree × Except FileError Path :=
  match target with
  | .directory p =>
    if tree.isDirectory p then (tree, tree.canonicalize p)
    else
      match tree.makeAllDirectories p with
      | (made, .error e) => (made, .error e)
      | (made, .ok ()) => (made, made.canonicalize p)
  | .temporary inside =>
    match tree.makeTemporary inside temporaryStem with
    | .error e => (tree, .error e)
    | .ok (made, p) => (made, .ok p)

/-- Resolve a request and write its templates. -/
def prepare (root : Root) (tree : FileTree) (request : Request) (target : Target) :
    FileTree × Except ConfigError WorkDirectory :=
  match target.make tree with
  | (tree, .error e) => (tree, .error (.file e))
  | (tree, .ok p) =>
    match Resolution.resolve root tree request with
    | .error e => (tree, .error e)
    | .ok r => write r tree p

end WorkDirectory

end LayeredConfig
