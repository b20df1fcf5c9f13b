import ContainerLaunch.Program
import ContainerLaunch.Proofs.Course
import ContainerLaunch.Proofs.Streams

/-!
# Runs of the program

A run ends with a refusal of its arguments, with a complaint about the stage of the launch that
failed, or with the exit code of the child.  The settings of the journal reach neither the command
nor any stage, so two runs that differ in them do the same and tell the same apart from the entries
of the journal.
-/

namespace ContainerLaunch

/-! ## How a run ends -/

namespace Program

variable {host : Host} {program : Program} {refusal : Intake.Refusal} {arguments : List Bytes}

theorem run_of_refused (host : Host) (h : Intake.accept program.argv = .error refusal) :
    program.run host = ⟨none, [.complained refusal.message], refusedCode⟩ := by
  unfold run
  rw [h]

theorem run_of_accepted (host : Host) (h : Intake.accept program.argv = .ok arguments) :
    let settings := Settings.ofEnvironment program.environment
    let launch := Launch.execute host settings program.stdin arguments
    program.run host =
      ⟨some ⟨.ofDebug settings.debug, program.style⟩, (launched launch).1,
        (launched launch).2⟩ := by
  intro settings launch
  unfold run
  rw [h]

/-- The style of a run decides nothing but the style of its journal. -/
theorem exists_run_eq (host : Host) (program : Program) :
    ∃ (verbosity : Option Journal.Verbosity) (effects : Effects) (code : Nat),
      ∀ style : Journal.Style, { program with style }.run host =
        ⟨verbosity.map fun kept ↦ ⟨kept, style⟩, effects, code⟩ := by
  cases haccept : Intake.accept program.argv with
  | error refusal => exact ⟨none, _, _, fun style ↦ run_of_refused host haccept⟩
  | ok arguments =>
    let settings := Settings.ofEnvironment program.environment
    let launch := Launch.execute host settings program.stdin arguments
    refine ⟨some (.ofDebug settings.debug), (launched launch).1, (launched launch).2,
      fun style ↦ ?_⟩
    exact run_of_accepted host haccept

end Program

/-! ## What the settings of the journal cannot reach -/

section Independence

variable {host host' : Host} {settings settings' : Settings} {stdin : Bytes}

theorem Request.command_congr (hpython : settings.python = settings'.python)
    (hlauncher : settings.launcher = settings'.launcher) :
    command settings = command settings' := by
  funext request
  unfold command
  rw [hpython, hlauncher]

namespace Launch

theorem preparing_congr (hpython : settings.python = settings'.python)
    (hlauncher : settings.launcher = settings'.launcher) :
    preparing settings = preparing settings' := by
  funext arguments
  unfold preparing
  rw [Request.command_congr hpython hlauncher]

theorem running_congr (hstart : ∀ command, host.start command stdin = host'.start command stdin) :
    running host stdin = running host' stdin := by
  funext command
  unfold running starting
  rw [hstart command]

/-- Of the settings only what the command names has a part in a launch, and of the host only how it
takes the announcement and what becomes of commands with this standard input. -/
theorem execute_congr (hpython : settings.python = settings'.python)
    (hlauncher : settings.launcher = settings'.launcher) (houtput : host.output = host'.output)
    (hstart : ∀ command, host.start command stdin = host'.start command stdin) :
    execute host settings stdin = execute host' settings' stdin := by
  funext arguments
  unfold execute executing
  rw [preparing_congr hpython hlauncher, houtput, running_congr hstart]

end Launch

namespace Program

open Effects

/-- Two runs are given the same but for the journal: the environment may switch debugging on for one
and off for the other, and one may be coloured.  When their hosts differ in nothing that the launch
depends on, the runs do the same deeds in the same order and end alike, and on standard error each
has the entries of its own journal woven into the same rest. -/
theorem run_apart_from_journal (argv : List Bytes) (stdin : Bytes)
    (environment environment' : Option Bytes) (style style' : Journal.Style)
    (houtput : host.output = host'.output)
    (hstart : ∀ command, host.start command stdin = host'.start command stdin) :
    let run := Program.run host ⟨argv, environment, stdin, style⟩
    let run' := Program.run host' ⟨argv, environment', stdin, style'⟩
    run.code = run'.code ∧ run.stdout = run'.stdout ∧
      run.effects.attempts = run'.effects.attempts ∧
      run.effects.deeds = run'.effects.deeds ∧
      ∃ rest, Woven (run.effects.entries run.journal) rest run.stderr ∧
        Woven (run'.effects.entries run'.journal) rest run'.stderr := by
  intro run run'
  obtain ⟨heffects, hcode⟩ : run.effects = run'.effects ∧ run.code = run'.code := by
    unfold run run'
    cases haccept : Intake.accept argv with
    | error refusal =>
      rw [run_of_refused host haccept, run_of_refused host' haccept]
      exact ⟨rfl, rfl⟩
    | ok arguments =>
      rw [run_of_accepted host haccept, run_of_accepted host' haccept]
      have hexecute : Launch.execute host (Settings.ofEnvironment environment) stdin =
          Launch.execute host' (Settings.ofEnvironment environment') stdin :=
        Launch.execute_congr rfl rfl houtput hstart
      simp only [hexecute, and_self]
  refine ⟨hcode, congrArg stdout heffects, congrArg attempts heffects, congrArg deeds heffects,
    run'.effects.unlogged, ?_, woven_stderr run'.journal run'.effects⟩
  rw [← heffects]
  exact woven_stderr run.journal run.effects

/-- A child that fails, once with debugging and in colours and once without. -/
theorem run_apart_from_journal_of_failing_child :
    let child : Child := ⟨[0x6F], [0x65], .exited 3⟩
    let host : Host := ⟨.accepts, fun _ _ ↦ .ok child⟩
    let host' : Host := ⟨.accepts, fun _ stdin ↦ if stdin = [] then .ok child else .error .missing⟩
    let argv : List Bytes := [[0x6C], [0x35], [0x68], [0x65], [0x63]]
    let run := Program.run host ⟨argv, some [0x31], [], .coloured⟩
    let run' := Program.run host' ⟨argv, none, [], .plain⟩
    (∀ command, host.start command [] = host'.start command []) ∧
      run.journal = some ⟨.everything, .coloured⟩ ∧ run'.journal = some ⟨.warnings, .plain⟩ ∧
      run.code = 3 ∧ run'.code = 3 ∧ run.effects.deeds = run'.effects.deeds := by
  intro child host host' argv run run'
  have hstart (command : Command) : host.start command [] = host'.start command [] := rfl
  obtain ⟨hcode, -, -, hdeeds, -⟩ :=
    run_apart_from_journal argv [] (some [0x31]) none .coloured .plain
      (rfl : host.output = host'.output) hstart
  have hended : run'.code = 3 := by decide +kernel
  exact ⟨hstart, by decide +kernel, by decide +kernel, hcode.trans hended, hended, hdeeds⟩

end Program

end Independence

end ContainerLaunch
