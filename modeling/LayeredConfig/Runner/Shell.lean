import LayeredConfig.Runner.Capture
import LayeredConfig.Runner.Execution
import LayeredConfig.Script.Evaluation

/-!
# Running commands with a shell

A runner that runs a command as a script, in a directory, with nothing on its
standard input. What it writes is captured, and what it does to the files is
done to the tree.
-/

namespace LayeredConfig

namespace Script

/-- The name of a shell that is given a command. -/
def shellName : Octets := "sh".toList

/-- The steps that a script is given. -/
def stepLimit : Nat := 1000000

/-- The variables that a shell finds. -/
def startingValues (tree : FileTree) : Values :=
  SortedMap.ofList
    [ ("HOME".toList, "/root".toList),
      ("IFS".toList, " \t\n".toList),
      ("OPTIND".toList, "1".toList),
      ("PATH".toList, "/usr/local/sbin:/usr/local/bin:/usr/sbin:/usr/bin:/sbin:/bin".toList),
      ("PS1".toList, "$ ".toList),
      ("PS2".toList, "> ".toList),
      ("PS4".toList, "+ ".toList),
      ("PWD".toList, Octets.ofText (Location.path tree.current).text) ]

/-- A shell in a tree: standard input gives nothing, and both outputs are gathered. -/
def Shell.starting (tree : FileTree) : Shell where
  tree := tree
  streams := #[.nothing, .gathered [], .gathered []]
  descriptors := [(0, 0), (1, 1), (2, 2)]
  values := startingValues tree
  exported := ["HOME".toList, "PATH".toList, "PWD".toList]
  functions := []
  hidden := []
  name := shellName
  arguments := []
  status := 0
  process := 1000
  background := none
  line := 1
  options := Options.none
  traps := []
  raised := []
  outputStatus := none
  loops := 0
  speaker := none
  nested := false
  control := .proceed

/-- Run a command as a script in the current directory of a tree. -/
def run (tree : FileTree) (command : String) : Shell :=
  finish stepLimit (evaluateText stepLimit .plain (Octets.ofText command) (Shell.starting tree))

/-- What was gathered from an output. -/
def Shell.output (s : Shell) (stream : Nat) : ByteArray :=
  Octets.toBytes ((s.streams[stream]?).getD .nothing).text

/-- The exit code of a shell: its status, or minus one if a signal ended it. -/
def Shell.exitCode (s : Shell) : Int :=
  match s.control with
  | .killed _ => -1
  | _ => s.status % 256

/-- What is captured of a shell that has ended. -/
def Shell.execution (s : Shell) : Execution :=
  ⟨s.exitCode, Capture.capture (s.output 1), Capture.capture (s.output 2)⟩

end Script

/-- The problem of a command that no program can be given. -/
def unspeakableCommand : String := "Failed to spawn shell: nul byte found in provided data"

/-- The runner that runs commands with a shell. -/
def shellRunner : Runner Unit where
  run memory tree directory command :=
    match tree.existing? directory with
    | .ok (location, .directory) =>
      if command.toList.contains '\x00' then (memory, tree, .error (.executionFailed unspeakableCommand))
      else
        let ended := Script.run { tree with current := location } command
        (memory, { ended.tree with current := tree.current }, .ok ended.execution)
    | _ => (memory, tree, .error (.invalidDirectory directory))

end LayeredConfig
