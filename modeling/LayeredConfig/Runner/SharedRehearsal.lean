import LayeredConfig.Runner.Rehearsal

/-!
# Shared rehearsals

A rehearsal may have several holders. Its four parts are kept in a store, each at a place of its
own, and a holder knows these places. A copy of a holder knows the same places. So what is done
through one of them is seen by all.
-/

namespace LayeredConfig

namespace Rehearsal

/-- What can be done with a rehearsal. -/
inductive Step where
  /-- Prepare one response more. -/
  | addResponse (response : Execution)
  /-- Make every call fail. -/
  | simulateFailure (problem : String)
  /-- Run a command in a directory. -/
  | run (directory : Path) (command : String)
  deriving DecidableEq, Repr

/-- Do a step. Running a command gives an answer. -/
def perform (r : Rehearsal) : Step → Rehearsal × Option (Except RunnerError Execution)
  | .addResponse response => (r.addResponse response, none)
  | .simulateFailure problem => (r.simulateFailure problem, none)
  | .run directory command =>
    match r.run directory command with
    | (after, answer) => (after, some answer)

/-- One who holds a rehearsal: the places at which its parts are kept. -/
structure Holder where
  /-- The place of the prepared responses. -/
  responses : Nat
  /-- The place of the number of used responses. -/
  used : Nat
  /-- The place of the calls. -/
  calls : Nat
  /-- The place of the message that every call fails with. -/
  failure : Nat
  deriving DecidableEq, Repr

/-- Another holder of the same rehearsal: the places are copied, and what is kept there is not. -/
def Holder.copy (h : Holder) : Holder := ⟨h.responses, h.used, h.calls, h.failure⟩

/-- What is kept at places, with something else at one of them. -/
def keptWith {α : Type} (kept : Nat → α) (place : Nat) (part : α) : Nat → α :=
  fun other => if other = place then part else kept other

/-- Where the parts of rehearsals are kept. -/
structure Store where
  /-- The prepared responses at each place. -/
  responses : Nat → List Execution
  /-- The number of used responses at each place. -/
  used : Nat → Nat
  /-- The calls at each place. -/
  calls : Nat → List Call
  /-- The message at each place that every call fails with. -/
  failure : Nat → Option String
  /-- From here on the places are free. -/
  free : Nat

namespace Store

/-- A store in which nothing is kept yet. -/
def empty : Store := ⟨fun _ => [], fun _ => 0, fun _ => [], fun _ => none, 0⟩

/-- The rehearsal that a holder finds at its places. -/
def rehearsal (s : Store) (h : Holder) : Rehearsal :=
  ⟨s.responses h.responses, s.used h.used, s.calls h.calls, s.failure h.failure⟩

/-- Keep a rehearsal at the places of a holder. -/
def put (s : Store) (h : Holder) (r : Rehearsal) : Store :=
  { s with
    responses := keptWith s.responses h.responses r.responses
    used := keptWith s.used h.used r.used
    calls := keptWith s.calls h.calls r.calls
    failure := keptWith s.failure h.failure r.failure }

/-- A new rehearsal at free places, and its holder. -/
def hold (s : Store) : Store × Holder :=
  let holder : Holder := ⟨s.free, s.free, s.free, s.free⟩
  (({ s with free := s.free + 1 } : Store).put holder Rehearsal.new, holder)

/-- Do a step with the rehearsal of a holder. -/
def perform (s : Store) (h : Holder) (step : Step) :
    Store × Option (Except RunnerError Execution) :=
  match (s.rehearsal h).perform step with
  | (after, answer) => (s.put h after, answer)

/-- The store after steps, each done by a holder. -/
def performAll (s : Store) (steps : List (Holder × Step)) : Store :=
  steps.foldl (fun s done => (s.perform done.1 done.2).1) s

/-- No steps leave the store as it is. -/
@[simp]
theorem performAll_nil (s : Store) : s.performAll [] = s := rfl

/-- Steps are done one after the other. -/
@[simp]
theorem performAll_cons (s : Store) (done : Holder × Step) (steps : List (Holder × Step)) :
    s.performAll (done :: steps) = (s.perform done.1 done.2).1.performAll steps := rfl

/-- What was kept for a holder is what it finds. -/
@[simp]
theorem rehearsal_put (s : Store) (h : Holder) (r : Rehearsal) :
    (s.put h r).rehearsal h = r := by
  simp [rehearsal, put, keptWith]

/-- A new holder finds a rehearsal without responses. -/
theorem rehearsal_of_hold {s start : Store} {first : Holder} (h : s.hold = (start, first)) :
    start.rehearsal first = Rehearsal.new := by
  cases h
  exact rehearsal_put _ _ _

end Store

end Rehearsal

end LayeredConfig
