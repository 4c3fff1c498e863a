import LayeredConfig.Command.Execute
import LayeredConfig.Proofs.Configuration.Preparation
import LayeredConfig.Runner.Rehearsal
import Mathlib.Data.Prod.Basic

/-!
# One call of the runner

A runner is handed the state of all files with every call. So what it has seen can be
recorded without changing what it does, and the record tells how often it was called,
where, with which command, and what stood in the directory at that moment. It is called
once when the templates of the request are written and the settings give a command, and
it is not called otherwise.
-/

namespace LayeredConfig

/-- What a runner is called with. -/
structure RunnerCall where
  /-- The files at the moment of the call. -/
  files : FileTree
  /-- The directory to run the command in. -/
  directory : Path
  /-- The command. -/
  command : String

/-- A runner that also keeps its calls, the last one at the end. -/
def Runner.recording {σ : Type} (runner : Runner σ) : Runner (σ × List RunnerCall) where
  run := fun (memory, calls) tree directory command =>
    match runner.run memory tree directory command with
    | (after, final, answer) => ((after, calls ++ [⟨tree, directory, command⟩]), final, answer)

/-- What becomes of a request whose command is run by a runner that keeps its calls. -/
def recordedRun {σ : Type} (runner : Runner σ) (memory : σ) (root : Root) (tree : FileTree)
    (request : Request) (temporary : Path) :
    (σ × List RunnerCall) × FileTree × Except Failure Execution :=
  runInWorkDirectory runner.recording (memory, []) root tree request temporary

/-- The outcome of a call: the execution, or the failure under the text of what was being done. -/
def callOutcome (directory : Path) (command : String) :
    Except RunnerError Execution → Except Failure Execution
  | .ok execution => .ok execution
  | .error e => .error (.within (runningText command directory) (.runner e))

/-- What stops a request before a command is run. -/
inductive StopsBeforeCall (root : Root) (tree : FileTree) (request : Request) (temporary : Path) :
    ConfigError → Prop
  /-- The templates are not written. -/
  | preparing {e : ConfigError} :
      WorkDirectory.PreparationStops root tree request temporary e →
      StopsBeforeCall root tree request temporary e
  /-- The templates are written, but the settings give no command. -/
  | commandless {written : FileTree} {w : WorkDirectory} :
      WorkDirectory.prepare root tree request (.temporary temporary) = (written, .ok w) →
      w.command = none →
      StopsBeforeCall root tree request temporary (.missingSetting .executionCommand)

section

variable {σ : Type} {runner : Runner σ} {memory after : σ} {root : Root}
  {tree written final : FileTree} {request : Request} {temporary : Path} {w : WorkDirectory}
  {command : String} {answer : Except RunnerError Execution} {e : ConfigError}

/-- What stops a request leaves the runner alone. -/
theorem runInWorkDirectory_of_stops (runner : Runner σ) (memory : σ)
    (hconnected : tree.IsConnected)
    (h : StopsBeforeCall root tree request temporary e) :
    runInWorkDirectory runner memory root tree request temporary =
      (memory, (WorkDirectory.prepare root tree request (.temporary temporary)).1,
        .error (.config e)) := by
  cases h with
  | preparing hstops =>
    obtain ⟨final, hprepare⟩ := (WorkDirectory.prepare_eq_error_iff hconnected).mpr hstops
    rw [runInWorkDirectory, hprepare]
  | @commandless written w hprepare hcommand =>
    have hrequired : w.requiredCommand = .error (.missingSetting .executionCommand) := by
      rw [WorkDirectory.requiredCommand, hcommand]
    rw [runInWorkDirectory, hprepare]
    dsimp only
    rw [hrequired]

/-- When the templates are written and a command is given, the runner is called with it, and its
answer is the outcome. -/
theorem runInWorkDirectory_of_prepare
    (hprepare : WorkDirectory.prepare root tree request (.temporary temporary) =
      (written, .ok w)) (hcommand : w.command = some command)
    (hrun : runner.run memory written w.path command = (after, final, answer)) :
    runInWorkDirectory runner memory root tree request temporary =
      (after, final, callOutcome w.path command answer) := by
  have hrequired : w.requiredCommand = .ok command := by
    rw [WorkDirectory.requiredCommand, hcommand]
  rw [runInWorkDirectory, hprepare]
  dsimp only
  rw [hrequired]
  dsimp only
  rw [hrun]
  cases answer with
  | ok execution => rfl
  | error e => rfl

/-- A recording runner answers as the runner does, and keeps the call. -/
theorem Runner.run_recording {directory : Path} {calls : List RunnerCall}
    (hrun : runner.run memory tree directory command = (after, final, answer)) :
    runner.recording.run (memory, calls) tree directory command =
      ((after, calls ++ [⟨tree, directory, command⟩]), final, answer) := by
  simp only [recording, hrun]

/-- A request stops before the call, or its templates are written and its command is given. -/
theorem stopsBeforeCall_or_prepared (root : Root) (request : Request) (temporary : Path)
    (hconnected : tree.IsConnected) :
    (∃ e, StopsBeforeCall root tree request temporary e) ∨
      ∃ written w command,
        WorkDirectory.prepare root tree request (.temporary temporary) = (written, .ok w) ∧
        w.command = some command := by
  cases hprepare : WorkDirectory.prepare root tree request (.temporary temporary) with
  | mk written result =>
    cases result with
    | error e =>
      exact .inl ⟨e, .preparing ((WorkDirectory.prepare_eq_error_iff hconnected).mp ⟨_, hprepare⟩)⟩
    | ok w =>
      cases hcommand : w.command with
      | none => exact .inl ⟨_, .commandless hprepare hcommand⟩
      | some command => exact .inr ⟨written, w, command, rfl, hcommand⟩

/-- When the templates are written and a command is given, that call alone is recorded. -/
theorem recordedRun_of_prepare
    (hprepare : WorkDirectory.prepare root tree request (.temporary temporary) =
      (written, .ok w)) (hcommand : w.command = some command)
    (hrun : runner.run memory written w.path command = (after, final, answer)) :
    recordedRun runner memory root tree request temporary =
      ((after, [⟨written, w.path, command⟩]), final, callOutcome w.path command answer) :=
  runInWorkDirectory_of_prepare hprepare hcommand (Runner.run_recording hrun)

/-- Recording the calls of a runner changes nothing else. -/
theorem runInWorkDirectory_of_recordedRun (hconnected : tree.IsConnected)
    {calls : List RunnerCall} {outcome : Except Failure Execution}
    (h : recordedRun runner memory root tree request temporary = ((after, calls), final, outcome)) :
    runInWorkDirectory runner memory root tree request temporary = (after, final, outcome) := by
  obtain ⟨e, hstops⟩ | ⟨written, w, command, hprepare, hcommand⟩ :=
    stopsBeforeCall_or_prepared root request temporary hconnected
  · have hstop := runInWorkDirectory_of_stops runner memory hconnected hstops
    have hrecorded :=
      runInWorkDirectory_of_stops runner.recording (memory, []) hconnected hstops
    rw [recordedRun, hrecorded] at h
    cases h
    exact hstop
  · cases hrun : runner.run memory written w.path command with
    | mk after' rest =>
      obtain ⟨final', answer⟩ := rest
      rw [recordedRun_of_prepare hprepare hcommand hrun] at h
      cases h
      exact runInWorkDirectory_of_prepare hprepare hcommand hrun

/-- The runner is called at most once, and once exactly when the templates of the request are
written and its command is given. The call gets the directory that is prepared and the command of
the resolved settings, and all templates have been rendered and every listed file stands in the
directory at that moment. The outcome is the answer to the call. What stops the request before is
the outcome without a call. -/
theorem recordedRun_calls (hconnected : tree.IsConnected) :
    (∀ e, StopsBeforeCall root tree request temporary e →
      ∃ final, recordedRun runner memory root tree request temporary =
        ((memory, []), final, .error (.config e))) ∧
    (∀ written w command,
      WorkDirectory.prepare root tree request (.temporary temporary) = (written, .ok w) →
      w.command = some command →
      (∃ made r executable sources,
        WorkDirectory.ComesToTemplates root tree request temporary made w.path r executable
          sources ∧
        WorkDirectory.WritesTemplates made written r sources w ∧
        r.settings.executionCommand = some command) ∧
      ∃ after final answer, runner.run memory written w.path command = (after, final, answer) ∧
        recordedRun runner memory root tree request temporary =
          ((after, [⟨written, w.path, command⟩]), final, callOutcome w.path command answer)) ∧
    ((∃ e, StopsBeforeCall root tree request temporary e) ↔
      ¬ ∃ written w command,
        WorkDirectory.prepare root tree request (.temporary temporary) = (written, .ok w) ∧
        w.command = some command) ∧
    ∀ after calls final outcome,
      recordedRun runner memory root tree request temporary = ((after, calls), final, outcome) →
      runInWorkDirectory runner memory root tree request temporary = (after, final, outcome) := by
  refine ⟨fun e hstops => ⟨_, runInWorkDirectory_of_stops runner.recording _ hconnected hstops⟩,
    ?_, ?_, fun after calls final outcome => runInWorkDirectory_of_recordedRun hconnected⟩
  · intro written w command hprepare hcommand
    obtain ⟨made, r, executable, sources, hcomes, hwrites⟩ :=
      WorkDirectory.prepare_eq_ok hconnected hprepare
    exact ⟨⟨made, r, executable, sources, hcomes, hwrites, by rw [← hwrites.command, hcommand]⟩,
      _, _, _, rfl, recordedRun_of_prepare hprepare hcommand rfl⟩
  · constructor
    · rintro ⟨e, hstops⟩ ⟨written, w, command, hprepare, hcommand⟩
      cases hstops with
      | preparing hstops =>
        obtain ⟨final, hfails⟩ := (WorkDirectory.prepare_eq_error_iff hconnected).mpr hstops
        rw [hprepare] at hfails
        cases hfails
      | commandless hprepared hnone =>
        rw [hprepare] at hprepared
        cases hprepared
        rw [hcommand] at hnone
        cases hnone
    · intro hprepared
      exact (stopsBeforeCall_or_prepared root request temporary hconnected).resolve_right hprepared

end

/-- A configuration with a start script, a list of ports, and a command that runs the script. -/
def launchTree : FileTree :=
  ⟨.ofList
    [ (["c"], .directory),
      (["c", "exconf.yaml"], .file 0o644 ("services_dir_name: s\ntemplates_dir_name: t\n" ++
        "environments_dir_name: e\ntemplate_type: app\nexecution_file: run\n" ++
        "execution_command: ./run\nport: 80\n").toUTF8),
      (["c", "e"], .directory),
      (["c", "s"], .directory),
      (["c", "t"], .directory),
      (["c", "t", "app"], .directory),
      (["c", "t", "app", "___service___.ports"], .file 0o644 "\x7b\x7bport\x7d\x7d\n".toUTF8),
      (["c", "t", "app", "run"], .file 0o644 "start\n".toUTF8),
      (["tmp"], .directory) ], []⟩

/-- The script is run once, in a new directory with the script and the list of ports in it. -/
theorem launch_calls_once :
    ∃ root after written final,
      Root.openAt launchTree ⟨"/c"⟩ = .ok root ∧
      recordedRun Rehearsal.runner Rehearsal.new root launchTree (.ofNames "web" "prod") ⟨"/tmp"⟩ =
        ((after, [⟨written, ⟨"/tmp/exconf-000000"⟩, "./run"⟩]), final,
          .ok Rehearsal.silentSuccess) ∧
      WorkDirectory.IsFileIn written ⟨"/tmp/exconf-000000"⟩ ⟨"/tmp/exconf-000000/run"⟩ ∧
      WorkDirectory.IsFileIn written ⟨"/tmp/exconf-000000"⟩
        ⟨"/tmp/exconf-000000/web.ports"⟩ := by
  have hrun : ((Root.openAt launchTree ⟨"/c"⟩).bind fun root => .ok <| decide <|
      (WorkDirectory.prepare root launchTree (.ofNames "web" "prod")
        (.temporary ⟨"/tmp"⟩)).2.toOption =
        some ⟨⟨"/tmp/exconf-000000"⟩,
          [⟨"/tmp/exconf-000000/web.ports"⟩, ⟨"/tmp/exconf-000000/run"⟩],
          some ⟨"/tmp/exconf-000000/run"⟩, some "./run"⟩).toOption = some true := by
    decide +kernel
  have hconnected : launchTree.IsConnected := by decide +kernel
  obtain ⟨root, hroot, hrun⟩ := exists_of_toOption_bind hrun
  have hprepared := eq_ok_of_toOption (of_decide_eq_true (Option.some.inj hrun))
  obtain ⟨-, hcalls, -, -⟩ := @recordedRun_calls _ Rehearsal.runner Rehearsal.new root launchTree
    (.ofNames "web" "prod") ⟨"/tmp"⟩ hconnected
  obtain ⟨⟨made, r, executable, sources, -, hwrites, -⟩, after, final, answer, hanswer,
      hrecorded⟩ :=
    hcalls _ _ "./run" (Prod.snd_eq_iff.mp hprepared) rfl
  cases hanswer
  exact ⟨root, _, _, _, hroot, hrecorded, hwrites.isFileIn _ (by simp),
    hwrites.isFileIn _ (by simp)⟩

end LayeredConfig
