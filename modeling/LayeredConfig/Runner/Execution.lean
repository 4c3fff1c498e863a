import LayeredConfig.Files.Access

/-!
# Executions of commands

What running a command gives, and what a runner is: something that remembers,
and that runs a command in a directory of a file tree.
-/

namespace LayeredConfig

/-- The output streams of a command. -/
inductive OutputStream where
  /-- Standard output. -/
  | stdout
  /-- Standard error. -/
  | stderr
  deriving DecidableEq, Repr

/-- The name of a stream. -/
def OutputStream.text : OutputStream → String
  | .stdout => "stdout"
  | .stderr => "stderr"

/-- The result of a command. -/
structure Execution where
  /-- The exit code; minus one after a signal. -/
  exitCode : Int
  /-- What the command wrote to standard output. -/
  stdout : String
  /-- What the command wrote to standard error. -/
  stderr : String
  deriving DecidableEq, Repr

namespace Execution

/-- The command succeeded. -/
def succeeded (e : Execution) : Bool := e.exitCode == 0

/-- Both outputs, with a line break between them when neither is empty. -/
def combined (e : Execution) : String :=
  if e.stdout = "" then e.stderr
  else if e.stderr = "" then e.stdout
  else e.stdout ++ "\n" ++ e.stderr

end Execution

/-- Why a command cannot be run. -/
inductive RunnerError where
  /-- Running it failed. -/
  | executionFailed (problem : String)
  /-- The directory to run it in does not exist. -/
  | invalidDirectory (path : Path)
  /-- A file operation failed. -/
  | file (cause : FileError)
  deriving DecidableEq, Repr

/-- The message of a runner error. -/
def RunnerError.message : RunnerError → String
  | .executionFailed problem => "Shell execution failed: " ++ problem
  | .invalidDirectory path => "Working directory does not exist: " ++ path.text
  | .file cause => "IO error: " ++ cause.message

/-- The messages of a runner error and of its cause. -/
def RunnerError.chain (e : RunnerError) : List String :=
  match e with
  | .file cause => [e.message, cause.message]
  | _ => [e.message]

/-- Something that runs commands. -/
structure Runner (σ : Type) where
  /-- Run a command in a directory. The runner may remember the call, and the
  command may change the tree. -/
  run : σ → FileTree → (directory : Path) → (command : String) →
    σ × FileTree × Except RunnerError Execution

end LayeredConfig
