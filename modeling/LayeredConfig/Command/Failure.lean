import LayeredConfig.Configuration.Error
import LayeredConfig.Runner.Execution
import LayeredConfig.Value.Json

/-!
# Failures of commands

A command fails with the failure of a part, possibly under texts that say what
was being done. The exit code depends on the failure inside alone.
-/

namespace LayeredConfig

/-- A failure of a command. -/
inductive Failure where
  /-- The configuration failed. -/
  | config (cause : ConfigError)
  /-- The runner failed. -/
  | runner (cause : RunnerError)
  /-- The variables have no JSON text. -/
  | json (cause : KeyFault)
  /-- A failure while something was being done. -/
  | within (doing : String) (cause : Failure)
  deriving Repr

/-- The codes that the program exits with. -/
structure ExitCode where
  /-- The code. -/
  code : Nat
  deriving DecidableEq, Repr

namespace ExitCode

/-- The command succeeded. -/
def success : ExitCode := ⟨0⟩

/-- A failure of no special kind. -/
def general : ExitCode := ⟨1⟩

/-- The arguments are invalid. -/
def invalidArguments : ExitCode := ⟨2⟩

/-- The configuration is at fault. -/
def configuration : ExitCode := ⟨3⟩

/-- A template is at fault. -/
def template : ExitCode := ⟨4⟩

/-- The runner is at fault. -/
def runner : ExitCode := ⟨5⟩

end ExitCode

/-- The exit code of a failure of the configuration. -/
def ConfigError.exitCode : ConfigError → ExitCode
  | .invalidExtraVariable _ => .invalidArguments
  | .template _ => .template
  | .templateFile _ _ => .template
  | .file _ => .general
  | _ => .configuration

namespace Failure

/-- The messages of a failure, outermost first. -/
def chain : Failure → List String
  | .config cause => cause.chain
  | .runner cause => cause.chain
  | .json cause => [cause.message]
  | .within doing cause => doing :: cause.chain

/-- The exit code of a failure. -/
def exitCode : Failure → ExitCode
  | .config cause => cause.exitCode
  | .runner _ => .runner
  | .json _ => .general
  | .within _ cause => cause.exitCode

/-- What was being done does not change the exit code. -/
theorem exitCode_within (doing : String) (cause : Failure) :
    (Failure.within doing cause).exitCode = cause.exitCode := rfl

/-- The text that reports a failure. -/
def report (f : Failure) : String := "Error: " ++ ": ".intercalate f.chain

end Failure

end LayeredConfig
