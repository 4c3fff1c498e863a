import LayeredConfig.Runner.SharedRehearsal
import Mathlib.Data.List.Induction

/-!
# What a rehearsal has come to

Whatever is done with a rehearsal, and whichever of its holders does it, the steps so far tell what
it has come to. The calls are those of all commands that were run. The number of used responses is
the number of calls that drew one: a call draws a response when some response was added before it
and no failure was simulated before it. The answer to the next call follows from these.
-/

namespace LayeredConfig.Rehearsal

variable {past : List Step} {s start reached : Store} {first holder other : Holder}
  {steps : List (Holder × Step)} {directory : Path} {command problem : String}

/-! ## What the steps tell -/

/-- The response that a step adds. -/
def Step.response? : Step → Option Execution
  | .addResponse response => some response
  | _ => none

/-- The message that a step makes every call fail with. -/
def Step.problem? : Step → Option String
  | .simulateFailure problem => some problem
  | _ => none

/-- The call that a step makes. -/
def Step.call? : Step → Option Call
  | .run directory command => some ⟨directory, command⟩
  | _ => none

/-- The responses that were added, in order. -/
def responsesOf (past : List Step) : List Execution := past.filterMap Step.response?

/-- The message of the last failure that was simulated. -/
def problemOf (past : List Step) : Option String := (past.filterMap Step.problem?).getLast?

/-- The calls that were made, in order. -/
def callsOf (past : List Step) : List Call := past.filterMap Step.call?

/-- A step draws a response when it makes a call, some response was added before, and no failure
was simulated before. -/
def draws (past : List Step) (step : Step) : Bool :=
  step.call?.isSome && !(responsesOf past).isEmpty && (problemOf past).isNone

/-- The number of steps that drew a response, each after the steps in front of it. -/
def drawCount (past : List Step) : Nat :=
  (List.range past.length).countP fun place => past[place]?.any (draws (past.take place))

@[simp]
theorem responsesOf_concat (past : List Step) (step : Step) :
    responsesOf (past ++ [step]) = responsesOf past ++ step.response?.toList := by
  cases h : step.response? <;> simp [responsesOf, h]

@[simp]
theorem problemOf_concat (past : List Step) (step : Step) :
    problemOf (past ++ [step]) = step.problem?.or (problemOf past) := by
  cases h : step.problem? <;> simp [problemOf, h]

@[simp]
theorem callsOf_concat (past : List Step) (step : Step) :
    callsOf (past ++ [step]) = callsOf past ++ step.call?.toList := by
  cases h : step.call? <;> simp [callsOf, h]

/-- One step more draws at most one response. -/
@[simp]
theorem drawCount_concat (past : List Step) (step : Step) :
    drawCount (past ++ [step]) = drawCount past + if draws past step then 1 else 0 := by
  -- What stands in front of an earlier place is the same with one step more.
  have hsame : ∀ place ∈ List.range past.length,
      (past ++ [step])[place]?.any (draws ((past ++ [step]).take place)) =
        past[place]?.any (draws (past.take place)) := by
    intro place hplace
    have hlt := List.mem_range.mp hplace
    rw [List.getElem?_append_left hlt, List.take_append_of_le_length (Nat.le_of_lt hlt)]
  rw [drawCount, List.length_append, List.length_singleton, List.range_succ, List.countP_append,
    List.countP_congr fun place hplace => by rw [hsame place hplace]]
  simp [drawCount]

/-- No more responses are drawn than calls are made. -/
theorem drawCount_le (past : List Step) : drawCount past ≤ (callsOf past).length := by
  induction past using List.reverseRecOn with
  | nil => exact Nat.le_refl 0
  | append_singleton past step ih =>
    rw [drawCount_concat, callsOf_concat, List.length_append]
    refine Nat.add_le_add ih ?_
    cases hcall : step.call? with
    | none => simp [draws, hcall]
    | some call => split <;> simp

/-! ## The rehearsal after some steps -/

/-- The rehearsal that has come of steps. -/
def ofSteps (past : List Step) : Rehearsal :=
  ⟨responsesOf past, drawCount past, callsOf past, problemOf past⟩

/-- After a simulated failure a call fails with the last message, and no response is used. -/
theorem run_ofSteps_of_problem (hproblem : problemOf past = some problem) :
    (ofSteps past).run directory command =
      ({ ofSteps past with calls := callsOf past ++ [⟨directory, command⟩] },
        .error (.executionFailed problem)) := by
  simp [run, ofSteps, hproblem]

/-- Before a response is added a call succeeds without output. -/
theorem run_ofSteps_of_nil (hproblem : problemOf past = none) (hnil : responsesOf past = []) :
    (ofSteps past).run directory command =
      ({ ofSteps past with calls := callsOf past ++ [⟨directory, command⟩] },
        .ok silentSuccess) := by
  simp [run, draw, ofSteps, hproblem, hnil]

/-- Otherwise a call uses the response whose turn it is. -/
theorem run_ofSteps_of_ne_nil (hproblem : problemOf past = none) (hsome : responsesOf past ≠ []) :
    ∃ response,
      (responsesOf past)[drawCount past % (responsesOf past).length]? = some response ∧
      (ofSteps past).run directory command =
        ({ ofSteps past with
            used := drawCount past + 1
            calls := callsOf past ++ [⟨directory, command⟩] }, .ok response) := by
  have hlt : drawCount past % (responsesOf past).length < (responsesOf past).length :=
    Nat.mod_lt _ (List.length_pos_iff.mpr hsome)
  refine ⟨_, List.getElem?_eq_getElem hlt, ?_⟩
  simp [run, draw, ofSteps, hproblem, hlt]

/-- A call is the next step. -/
theorem run_ofSteps (past : List Step) (directory : Path) (command : String) :
    ((ofSteps past).run directory command).1 = ofSteps (past ++ [.run directory command]) := by
  cases hproblem : problemOf past with
  | some problem =>
    rw [run_ofSteps_of_problem hproblem]
    simp [ofSteps, draws, hproblem, Step.response?, Step.problem?, Step.call?]
  | none =>
    by_cases hnil : responsesOf past = []
    · rw [run_ofSteps_of_nil hproblem hnil]
      simp [ofSteps, draws, hproblem, hnil, Step.response?, Step.problem?, Step.call?]
    · obtain ⟨response, -, hrun⟩ := run_ofSteps_of_ne_nil hproblem hnil
      rw [hrun]
      simp [ofSteps, draws, hproblem, hnil, Step.response?, Step.problem?, Step.call?]

/-- Every step keeps the rehearsal one that has come of the steps so far. -/
theorem perform_ofSteps (past : List Step) (step : Step) :
    ((ofSteps past).perform step).1 = ofSteps (past ++ [step]) := by
  cases step with
  | addResponse response =>
    simp [perform, addResponse, ofSteps, draws, Step.response?, Step.problem?, Step.call?]
  | simulateFailure problem =>
    simp [perform, simulateFailure, ofSteps, draws, Step.response?, Step.problem?, Step.call?]
  | run directory command => exact run_ofSteps past directory command

/-! ## Holders of one rehearsal -/

/-- A holder is the first one or a copy of one that is. -/
inductive Holder.IsCopy (first : Holder) : Holder → Prop where
  /-- The first holder itself. -/
  | first : IsCopy first first
  /-- A copy. -/
  | copy {holder : Holder} : IsCopy first holder → IsCopy first holder.copy

/-- Copies know the same places. -/
theorem Holder.IsCopy.eq (h : first.IsCopy holder) : holder = first := by
  induction h with
  | first => rfl
  | copy _ ih => exact ih

/-- The steps of all holders of a rehearsal, in their order, are what has been done with it. -/
theorem rehearsal_performAll (hsteps : ∀ done ∈ steps, first.IsCopy done.1)
    (hpast : s.rehearsal first = ofSteps past) :
    (s.performAll steps).rehearsal first = ofSteps (past ++ steps.map Prod.snd) := by
  induction steps generalizing s past with
  | nil => simpa using hpast
  | cons done rest ih =>
    obtain ⟨hdone, hrest⟩ := List.forall_mem_cons.mp hsteps
    have hnext : (s.perform done.1 done.2).1.rehearsal first = ofSteps (past ++ [done.2]) := by
      rw [hdone.eq, Store.perform, Store.rehearsal_put, hpast, perform_ofSteps]
    rw [Store.performAll_cons, ih hrest hnext, List.append_assoc, List.singleton_append,
      List.map_cons]

/-- After any steps, every holder of a rehearsal that began as a new one finds what has come of
them. -/
theorem rehearsal_after_steps (hstart : s.hold = (start, first))
    (hsteps : ∀ done ∈ steps, first.IsCopy done.1) (hholder : first.IsCopy holder) :
    (start.performAll steps).rehearsal holder = ofSteps (steps.map Prod.snd) := by
  have hnew : start.rehearsal first = ofSteps [] := Store.rehearsal_of_hold hstart
  rw [hholder.eq, rehearsal_performAll hsteps hnew, List.nil_append]

/-- No more responses have been used than calls were made. So a counter of responses has room enough
as long as the list of calls has. -/
theorem used_le_callCount (hstart : s.hold = (start, first))
    (hsteps : ∀ done ∈ steps, first.IsCopy done.1) (hholder : first.IsCopy holder) :
    ((start.performAll steps).rehearsal holder).used ≤
      ((start.performAll steps).rehearsal holder).callCount := by
  rw [rehearsal_after_steps hstart hsteps hholder]
  exact drawCount_le _

/-- The places of a holder are taken. -/
structure Holder.IsIn (holder : Holder) (s : Store) : Prop where
  /-- The place of the responses. -/
  responses_lt : holder.responses < s.free
  /-- The place of the number of used responses. -/
  used_lt : holder.used < s.free
  /-- The place of the calls. -/
  calls_lt : holder.calls < s.free
  /-- The place of the message. -/
  failure_lt : holder.failure < s.free

/-- Two holders have no place in common. -/
structure Holder.IsApart (holder other : Holder) : Prop where
  /-- The responses are not shared. -/
  responses_ne : other.responses ≠ holder.responses
  /-- The number of used responses is not shared. -/
  used_ne : other.used ≠ holder.used
  /-- The calls are not shared. -/
  calls_ne : other.calls ≠ holder.calls
  /-- The message is not shared. -/
  failure_ne : other.failure ≠ holder.failure

/-- What is kept for a holder is nothing to one that is apart. -/
theorem rehearsal_put_of_isApart (h : holder.IsApart other) (r : Rehearsal) :
    (s.put holder r).rehearsal other = s.rehearsal other := by
  simp [Store.rehearsal, Store.put, keptWith, h.responses_ne, h.used_ne, h.calls_ne, h.failure_ne]

/-- Nor are the steps of a holder and its copies. -/
theorem rehearsal_performAll_of_isApart (hapart : first.IsApart other)
    (hsteps : ∀ done ∈ steps, first.IsCopy done.1) :
    (s.performAll steps).rehearsal other = s.rehearsal other := by
  induction steps generalizing s with
  | nil => rfl
  | cons done rest ih =>
    obtain ⟨hdone, hrest⟩ := List.forall_mem_cons.mp hsteps
    rw [Store.performAll_cons, ih hrest, Store.perform, hdone.eq]
    exact rehearsal_put_of_isApart hapart _

/-- Nothing that is done with a new rehearsal changes those that were held before. -/
theorem rehearsal_performAll_of_isIn (hstart : s.hold = (start, first)) (hother : other.IsIn s)
    (hsteps : ∀ done ∈ steps, first.IsCopy done.1) :
    (start.performAll steps).rehearsal other = s.rehearsal other := by
  cases hstart
  have hapart : s.hold.2.IsApart other :=
    ⟨Nat.ne_of_lt hother.responses_lt, Nat.ne_of_lt hother.used_lt, Nat.ne_of_lt hother.calls_lt,
      Nat.ne_of_lt hother.failure_lt⟩
  rw [rehearsal_performAll_of_isApart hapart hsteps]
  exact rehearsal_put_of_isApart hapart _

/-! ## The next call -/

/-- All holders of a rehearsal find the same after the steps that any of them did: the calls are
those of these steps, in order, whatever the answers were. The next call through any holder fails
with the last message if a failure was simulated, and then uses no response. If not, it succeeds
without output as long as no response was added, and else it gives the response whose turn it is:
the one at the number of earlier calls that drew one, modulo the number of responses so far. -/
theorem answer_after_steps (hstart : s.hold = (start, first))
    (hsteps : ∀ done ∈ steps, first.IsCopy done.1) (hholder : first.IsCopy holder)
    (hpast : steps.map Prod.snd = past) (hreached : start.performAll steps = reached)
    (directory : Path) (command : String) :
    (reached.rehearsal holder).calls = callsOf past ∧
    (reached.rehearsal holder).callCount = (callsOf past).length ∧
    ∃ final answer,
      reached.perform holder (.run directory command) = (final, some answer) ∧
      (∀ problem, problemOf past = some problem →
        answer = .error (.executionFailed problem) ∧
        (final.rehearsal holder).used = (reached.rehearsal holder).used) ∧
      (problemOf past = none → responsesOf past = [] → answer = .ok silentSuccess) ∧
      (problemOf past = none → responsesOf past ≠ [] →
        ∃ response,
          (responsesOf past)[drawCount past % (responsesOf past).length]? = some response ∧
          answer = .ok response) := by
  have hfound : reached.rehearsal holder = ofSteps past := by
    rw [← hreached, rehearsal_after_steps hstart hsteps hholder, hpast]
  refine ⟨by rw [hfound]; rfl, by rw [hfound]; rfl,
    reached.put holder ((ofSteps past).run directory command).1,
    ((ofSteps past).run directory command).2, ?_, ?_, ?_, ?_⟩
  · rw [Store.perform, hfound]
    rfl
  · intro problem hproblem
    rw [Store.rehearsal_put, hfound, run_ofSteps_of_problem hproblem]
    exact ⟨rfl, rfl⟩
  · intro hproblem hnil
    rw [run_ofSteps_of_nil hproblem hnil]
  · intro hproblem hsome
    obtain ⟨response, hresponse, hrun⟩ := run_ofSteps_of_ne_nil hproblem hsome
    exact ⟨response, hresponse, by rw [hrun]⟩

/-- A holder and a copy of it call before, between and after two responses are added. -/
def sharedSteps (first : Holder) : List (Holder × Step) :=
  [ (first, .run ⟨"/w"⟩ "a"), (first.copy, .addResponse (success "one")),
    (first, .run ⟨"/w"⟩ "b"), (first, .addResponse (failing 3 "two")) ]

/-- Two failures are simulated, one through a copy, and a call fails between them. -/
def failingSteps (first : Holder) : List (Holder × Step) :=
  [ (first, .simulateFailure "no shell"), (first, .run ⟨"/w"⟩ "c"),
    (first.copy, .simulateFailure "gone") ]

/-- A copy goes on with the second response where the first holder used one, and its call fails
with the last message once failures are simulated. -/
theorem copy_takes_its_turn :
    ∃ start first reached failing final failed,
      Store.empty.hold = (start, first) ∧
      start.performAll (sharedSteps first) = reached ∧
      (reached.rehearsal first.copy).calls = [⟨⟨"/w"⟩, "a"⟩, ⟨⟨"/w"⟩, "b"⟩] ∧
      reached.perform first.copy (.run ⟨"."⟩ "d") =
        (final, some (.ok ⟨3, "", "two"⟩)) ∧
      start.performAll (sharedSteps first ++ failingSteps first) = failing ∧
      (failing.rehearsal first.copy).callCount = 3 ∧
      failing.perform first.copy (.run ⟨"."⟩ "d") =
        (failed, some (.error (.executionFailed "gone"))) := by
  have hcopies : ∀ done ∈ sharedSteps Store.empty.hold.2 ++ failingSteps Store.empty.hold.2,
      Store.empty.hold.2.IsCopy done.1 := by
    simp [sharedSteps, failingSteps, Holder.IsCopy.first, Holder.IsCopy.copy]
  obtain ⟨hcalls, -, final, answer, hrun, -, -, hdrawn⟩ :=
    answer_after_steps (s := Store.empty) rfl
      (fun done hdone => hcopies done (List.mem_append_left _ hdone)) (.copy .first) rfl rfl
      ⟨"."⟩ "d"
  obtain ⟨-, hcount, failed, refusal, hrefused, hfailed, -, -⟩ :=
    answer_after_steps (s := Store.empty) rfl hcopies (.copy .first) rfl rfl ⟨"."⟩ "d"
  obtain ⟨response, hresponse, rfl⟩ := hdrawn rfl (by decide)
  obtain ⟨rfl, -⟩ := hfailed "gone" rfl
  cases hresponse
  exact ⟨_, _, _, _, final, failed, rfl, rfl, hcalls, hrun, rfl, hcount, hrefused⟩

end LayeredConfig.Rehearsal
