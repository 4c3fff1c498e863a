import LayeredConfig.Command.Failure
import LayeredConfig.Configuration.WorkDirectory

/-!
# Running the command of a configuration

The templates of a request are written into a temporary directory, and the
command of the settings runs there. Nothing runs unless all of them are
written and the command is given.
-/

namespace LayeredConfig

/-- What was being done when a command was run. -/
def runningText (command : String) (directory : Path) : String :=
  "Failed to run '" ++ command ++ "' in " ++ directory.text

/-- Prepare a temporary work directory and run the command of the settings in it. -/
def runInWorkDirectory {σ : Type} (runner : Runner σ) (memory : σ) (root : Root)
    (tree : FileTree) (request : Request) (temporary : Path) :
    σ × FileTree × Except Failure Execution :=
  match WorkDirectory.prepare root tree request (.temporary temporary) with
  | (tree, .error e) => (memory, tree, .error (.config e))
  | (tree, .ok w) =>
    match w.requiredCommand with
    | .error e => (memory, tree, .error (.config e))
    | .ok command =>
      match runner.run memory tree w.path command with
      | (memory, tree, .ok execution) => (memory, tree, .ok execution)
      | (memory, tree, .error e) =>
        (memory, tree, .error (.within (runningText command w.path) (.runner e)))

end LayeredConfig
