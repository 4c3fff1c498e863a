import LayeredConfig.Runner.Execution

/-!
# Rehearsals

A runner that runs nothing: it records every call and answers with prepared
responses in turn, starting over when they are used up. A failure can be
prepared as well; then every call fails and no response is used.
-/

namespace LayeredConfig

/-- A recorded call. -/
structure Call where
  /-- The directory. -/
  directory : Path
  /-- The command. -/
  command : String
  deriving DecidableEq, Repr

/-- What a rehearsal is prepared with and what it has seen. -/
structure Rehearsal where
  /-- The prepared responses, in turn. -/
  responses : List Execution
  /-- How many responses have been used. -/
  used : Nat
  /-- The calls, in order. -/
  calls : List Call
  /-- The message that every call fails with. -/
  failure : Option String
  deriving DecidableEq, Repr

namespace Rehearsal

/-- A rehearsal without responses. -/
def new : Rehearsal := ⟨[], 0, [], none⟩

/-- The response when none is prepared: success without output. -/
def silentSuccess : Execution := ⟨0, "", ""⟩

/-- A successful response. -/
def success (stdout : String) : Execution := ⟨0, stdout, ""⟩

/-- A failing response. -/
def failing (exitCode : Int) (stderr : String) : Execution := ⟨exitCode, "", stderr⟩

/-- Prepare one response more. -/
def addResponse (r : Rehearsal) (response : Execution) : Rehearsal :=
  { r with responses := r.responses ++ [response] }

/-- Make every call fail. -/
def simulateFailure (r : Rehearsal) (problem : String) : Rehearsal :=
  { r with failure := some problem }

/-- The number of calls. -/
def callCount (r : Rehearsal) : Nat := r.calls.length

/-- Use the response whose turn it is. -/
def draw (r : Rehearsal) : Rehearsal × Execution :=
  match r.responses[r.used % r.responses.length]? with
  | none => (r, silentSuccess)
  | some response => ({ r with used := r.used + 1 }, response)

/-- Answer a call. -/
def run (r : Rehearsal) (directory : Path) (command : String) :
    Rehearsal × Except RunnerError Execution :=
  let recorded : Rehearsal := { r with calls := r.calls ++ [⟨directory, command⟩] }
  match recorded.failure with
  | some problem => (recorded, .error (.executionFailed problem))
  | none =>
    match recorded.draw with
    | (drawn, response) => (drawn, .ok response)

/-- A draw leaves the calls alone. -/
theorem calls_draw (r : Rehearsal) : r.draw.1.calls = r.calls := by
  rw [draw]
  split <;> rfl

/-- Every call is recorded, whatever the answer. -/
theorem calls_run (r : Rehearsal) (directory : Path) (command : String) :
    (r.run directory command).1.calls = r.calls ++ [⟨directory, command⟩] := by
  simp only [run]
  split
  · rfl
  · exact calls_draw _

/-- The runner of a rehearsal. The tree stays as it is. -/
def runner : Runner Rehearsal where
  run r tree directory command :=
    match r.run directory command with
    | (r, answer) => (r, tree, answer)

end Rehearsal

end LayeredConfig
