import LayeredConfig.Command.Program
import LayeredConfig.Runner.Shell

/-!
# The command line

The program on the files of the machine: the files that a command can reach
are taken into a file tree, the command runs on the tree, and what it changed
is written back. All decisions are made on the tree.
-/

namespace LayeredConfig.Main

/-- The variable of the environment that names the configuration root. -/
def rootVariable : String := "EXCONF_CONFIG_ROOT"

/-- The variable of the environment that names the directory for temporary files. -/
def temporaryVariable : String := "TMPDIR"

/-- The directory for temporary files unless another one is named. -/
def standardTemporary : String := "/tmp"

/-- How deep directories are taken into a tree. -/
def maxDepth : Nat := 64

/-- The location of a path, as it is written, from a directory on. -/
def locationOf (current : Location) (p : Path) : Location :=
  let steps := p.parts.filter fun part => part != "" && part != "."
  steps.foldl (fun at_ step => if step = ".." then at_.dropLast else at_ ++ [step])
    (p.origin current)

/-- Put directories at a location and above it, where nothing stands. -/
def withDirectories (tree : FileTree) (at_ : Location) : FileTree :=
  (List.range at_.length).foldl
    (fun tree n =>
      let place := at_.take (n + 1)
      if (tree.node? place).isSome then tree else tree.put place .directory) tree

/-- Take a file or a directory with everything below it into a tree. -/
def takeIn : Nat → Bool → FileTree → Location → IO FileTree
  | 0, _, tree, _ => pure tree
  | depth + 1, deep, tree, at_ => do
    try
      let path ← IO.FS.realPath (Location.path at_).text
      if ← path.isDir then
        let tree := withDirectories tree at_
        let entries ← path.readDir
        entries.foldlM
          (fun tree entry => do
            let place := at_ ++ [entry.fileName]
            if deep then takeIn depth deep tree place
            else if (tree.node? place).isSome then pure tree
            else pure (tree.put place (.file newFileMode ByteArray.empty)))
          tree
      else
        let content ← IO.FS.readBinFile path
        pure ((withDirectories tree at_.dropLast).put at_ (.file newFileMode content))
    catch _ => pure tree

/-- Take what stands above a location into a tree. -/
def takeAbove (tree : FileTree) (at_ : Location) : IO FileTree :=
  (List.range at_.length).foldlM
    (fun tree n => do
      let place := at_.take n
      try
        let path ← IO.FS.realPath (Location.path place).text
        if ← path.isDir then pure (withDirectories tree place)
        else pure (tree.put place (.file newFileMode ByteArray.empty))
      catch _ => pure tree) tree

/-- Take what a path leads to into a tree, by its real location. -/
def takePath (deep : Bool) (tree : FileTree) (p : Path) : IO FileTree := do
  let written := locationOf tree.current p
  try
    let path ← IO.FS.realPath (Location.path written).text
    let real := locationOf [] ⟨path.toString⟩
    let tree ← takeIn maxDepth deep tree real
    if real = written then pure tree
    else pure ((withDirectories tree written.dropLast).put written (.link real.path))
  catch _ => pure tree

/-- The paths that a command can reach besides the configuration root. -/
def targetPaths (a : Arguments) : List Path :=
  match a.command with
  | .template _ _ (some directory) => [directory]
  | _ => []

/-- The directories that the descriptor of a root names. -/
def namedDirectories (root : Root) : List Path :=
  [root.settings.servicesDirectory, root.settings.environmentsDirectory,
    root.settings.templatesDirectory].map root.path.join

/-- What a command finds on the machine. -/
def surroundings (texts : List String) : IO Surroundings := do
  let current := locationOf [] ⟨(← IO.currentDir).toString⟩
  let environment ← IO.getEnv rootVariable
  let temporary : Path := ⟨(← IO.getEnv temporaryVariable).getD standardTemporary⟩
  let forced := (← IO.getEnv "CLICOLOR_FORCE").any (· != "0")
  let plain := (← IO.getEnv "NO_COLOR").isSome || !(← (← IO.getStdout).isTty)
  let start := withDirectories { FileTree.empty with current := current } current
  let start := withDirectories start (locationOf current temporary)
  let tree ←
    match Arguments.read texts with
    | .error _ => pure start
    | .ok a => do
      let given := (a.root.orElse fun _ => environment.map Path.mk).getD current.path
      let tree ← takePath true start given
      let tree ← takePath false tree temporary
      let tree ← (targetPaths a).foldlM
        (fun tree p => do takePath true (← takeAbove tree (locationOf current p)) p) tree
      match Root.openAt tree given with
      | .ok root => (namedDirectories root).foldlM (takePath true) tree
      | .error _ => pure tree
  pure ⟨tree, temporary, environment.map Path.mk, forced || !plain⟩

/-- The rights of three permission bits. -/
def rightsOf (bits : Nat) : IO.AccessRight := ⟨bits.testBit 2, bits.testBit 1, bits.testBit 0⟩

/-- The rights of permission bits: of the owner, the group and all others. -/
def fileRights (mode : Nat) : IO.FileRight :=
  ⟨rightsOf (mode / 64), rightsOf (mode / 8), rightsOf mode⟩

/-- Write a node to the machine. -/
def writeNode (at_ : Location) (node : Node) : IO Unit := do
  let path := (Location.path at_).text
  match node with
  | .directory => IO.FS.createDirAll path
  | .file mode content =>
    IO.FS.writeBinFile path content
    IO.setAccessRights path (fileRights mode)
  | .link _ => pure ()

/-- Take a node away from the machine. -/
def eraseNode (at_ : Location) (node : Node) : IO Unit := do
  let path := (Location.path at_).text
  try
    match node with
    | .directory => IO.FS.removeDirAll path
    | _ => IO.FS.removeFile path
  catch _ => pure ()

/-- Write what changed to the machine. Ancestors come before what they hold. -/
def writeBack (before after : FileTree) : IO Unit := do
  for (at_, node) in before.nodes.entries do
    if after.node? at_ = none then eraseNode at_ node
  for (at_, node) in after.nodes.entries do
    if before.node? at_ ≠ some node then writeNode at_ node

end LayeredConfig.Main

open LayeredConfig in
/-- Run the program. -/
def main (texts : List String) : IO UInt32 := do
  let found ← Main.surroundings texts
  let (tree, outcome) := Program.run shellRunner found texts
  Main.writeBack found.tree tree
  (← IO.getStdout).putStr outcome.stdout
  (← IO.getStderr).putStr outcome.stderr
  pure (UInt32.ofNat outcome.code.code)
