import ContainerLaunch.Proofs.Activities
import ContainerLaunch.Proofs.Pieces
import ContainerLaunch.Proofs.Requests

/-!
# The course of a launch

What a launch does, from its first stage to the one that fails or to the end of the child.  With
too few arguments it does nothing at all.  Otherwise its whole transcript, records included, is
one of the five of a `Course`, and what is proved of launches is proved by going through them.
-/

namespace ContainerLaunch

/-! ## Transcripts -/

namespace Transcript

variable {ε ε' α β : Type}

@[simp]
theorem andThen_ok (effects : Effects) (value : α) (second : α → Transcript ε β) :
    (⟨effects, .ok value⟩ : Transcript ε α).andThen second =
      ⟨effects ++ (second value).effects, (second value).outcome⟩ := rfl

@[simp]
theorem andThen_error (effects : Effects) (failure : ε) (second : α → Transcript ε β) :
    (⟨effects, .error failure⟩ : Transcript ε α).andThen second = ⟨effects, .error failure⟩ := rfl

@[simp]
theorem within_mk (span : Journal.Span) (effects : Effects) (outcome : Except ε α) :
    within span ⟨effects, outcome⟩ = ⟨effects.map (Effect.within span), outcome⟩ := rfl

@[simp]
theorem mapFailure_ok (f : ε → ε') (effects : Effects) (value : α) :
    mapFailure f ⟨effects, .ok value⟩ = ⟨effects, .ok value⟩ := rfl

@[simp]
theorem mapFailure_error (f : ε → ε') (effects : Effects) (failure : ε) :
    mapFailure f (⟨effects, .error failure⟩ : Transcript ε α) = ⟨effects, .error (f failure)⟩ := rfl

end Transcript

namespace Launch

open Transcript

variable {host : Host} {settings : Settings} {stdin : Bytes} {arguments : List Bytes}
  {request : Request} {command : Command} {before : Effects}

/-! ## Single stages -/

theorem prepare_of_unpack_error {failure : Failure} (settings : Settings)
    (h : Request.unpack arguments = .error failure) :
    prepare settings arguments = ⟨[], .error failure⟩ := by
  simp [prepare, unpack, (does_preparing settings arguments).alone_eq,
    (does_unpacking arguments).alone_eq, h, ofOutcome]

theorem prepare_of_unpack_ok (settings : Settings) (h : Request.unpack arguments = .ok request) :
    prepare settings arguments =
      ⟨[.noted ⟨[.preparing arguments], .unpacked request⟩,
          .noted ⟨[.preparing arguments], .prepared (request.command settings)⟩],
        .ok (request.command settings)⟩ := by
  simp [prepare, unpack, (does_preparing settings arguments).alone_eq,
    (does_unpacking arguments).alone_eq, h, ofOutcome, note, did, done, Effect.within]

theorem announce_accepts (command : Command) :
    announce .accepts command = ⟨[.printed (announcement command), .flushed], .ok ()⟩ := rfl

theorem start_of_holdsZero (host : Host) (stdin : Bytes) (h : command.holdsZero = true) :
    start host stdin command = ⟨[], .error .zeroByte⟩ := by
  rw [start, (does_starting host stdin command).alone_eq, if_pos h]
  rfl

theorem start_of_error {cause : SystemError} (hzero : command.holdsZero = false)
    (h : host.start command stdin = .error cause) :
    start host stdin command = ⟨[.attempted command], .error cause⟩ := by
  simp [start, (does_starting host stdin command).alone_eq, hzero, h, ofOutcome, did]

theorem start_of_ok {child : Child} (hzero : command.holdsZero = false)
    (h : host.start command stdin = .ok child) :
    start host stdin command = ⟨[.attempted command, .relayed child], .ok child⟩ := by
  simp [start, (does_starting host stdin command).alone_eq, hzero, h, ofOutcome, did, done]

theorem run_of_start_error {cause : SystemError}
    (h : start host stdin command = ⟨before, .error cause⟩) :
    run host stdin command =
      ⟨(Effect.noted ⟨[], .running command⟩ :: before).map
          (Effect.within (.child command.program)),
        .error (.startRefused command.line cause)⟩ := by
  simp [run, (does_running host stdin command).alone_eq, h, note, did]

theorem run_of_start_ok {child : Child}
    (h : start host stdin command = ⟨before, .ok child⟩) :
    run host stdin command =
      ⟨(Effect.noted ⟨[], .running command⟩ :: before ++
            [Effect.noted ⟨[], verdict child.status⟩]).map
          (Effect.within (.child command.program)),
        .ok child.status.exitCode⟩ := by
  simp [run, (does_running host stdin command).alone_eq, h, note, did, done]

/-! ## Whole launches -/

/-- What is noted before the command is announced. -/
def preparation (arguments : List Bytes) (request : Request) (command : Command) : Effects :=
  [.noted ⟨[.executing arguments, .preparing arguments], .unpacked request⟩,
    .noted ⟨[.executing arguments, .preparing arguments], .prepared command⟩]

/-- The announcement, and what is noted between it and the attempt of a start. -/
def opening (arguments : List Bytes) (command : Command) : Effects :=
  [.printed (announcement command), .flushed,
    .noted ⟨[.executing arguments, .child command.program], .running command⟩]

/-- What is noted once a child has ended. -/
def closing (arguments : List Bytes) (command : Command) (status : WaitStatus) : Effects :=
  [.noted ⟨[.executing arguments, .child command.program], verdict status⟩,
    .noted ⟨[.executing arguments], .finished status.exitCode⟩]

/-- The five ways a launch can go once its command is prepared. -/
inductive Course (host : Host) (stdin : Bytes) (arguments : List Bytes) (request : Request)
    (command : Command) : Transcript Fault Nat → Prop where
  | unwritten {cause : SystemError} {taken : Nat}
      (houtput : host.output = .refusesWrite cause taken) :
    Course host stdin arguments request command
      ⟨preparation arguments request command ++
          [.printed ((announcement command).take taken)],
        .error (.announcing cause)⟩
  | unflushed {cause : SystemError} (houtput : host.output = .refusesFlush cause) :
    Course host stdin arguments request command
      ⟨preparation arguments request command ++ [.printed (announcement command)],
        .error (.announcing cause)⟩
  | zeroByte (houtput : host.output = .accepts) (hzero : command.holdsZero = true) :
    Course host stdin arguments request command
      ⟨preparation arguments request command ++ opening arguments command,
        .error (.starting (.startRefused command.line SystemError.zeroByte))⟩
  | refused {cause : SystemError} (houtput : host.output = .accepts)
      (hzero : command.holdsZero = false) (hstart : host.start command stdin = .error cause) :
    Course host stdin arguments request command
      ⟨preparation arguments request command ++ opening arguments command ++
          [.attempted command],
        .error (.starting (.startRefused command.line cause))⟩
  | ended {child : Child} (houtput : host.output = .accepts)
      (hzero : command.holdsZero = false) (hstart : host.start command stdin = .ok child) :
    Course host stdin arguments request command
      ⟨preparation arguments request command ++ opening arguments command ++
          [.attempted command] ++ .relayed child :: closing arguments command child.status,
        .ok child.status.exitCode⟩

/-! ## The stages together -/

theorem execute_of_short (host : Host) (settings : Settings) (stdin : Bytes)
    (h : arguments.length < Request.fewest) :
    execute host settings stdin arguments =
      ⟨[], .error (.preparing (.tooFewArguments arguments.length Request.fewest))⟩ := by
  simp [execute, (does_executing host settings stdin arguments).alone_eq,
    prepare_of_unpack_error settings (Request.unpack_of_short h)]

theorem execute_of_announce_error {cause : SystemError} (stdin : Bytes)
    (hrequest : Request.unpack arguments = .ok request)
    (h : announce host.output (request.command settings) = ⟨before, .error cause⟩) :
    execute host settings stdin arguments =
      ⟨preparation arguments request (request.command settings) ++
          before.map (Effect.within (.executing arguments)),
        .error (.announcing cause)⟩ := by
  simp [execute, (does_executing host settings stdin arguments).alone_eq,
    prepare_of_unpack_ok settings hrequest, h, preparation, Effect.within]

theorem execute_of_run_error {failure : Failure}
    (hrequest : Request.unpack arguments = .ok request) (houtput : host.output = .accepts)
    (h : run host stdin (request.command settings) = ⟨before, .error failure⟩) :
    execute host settings stdin arguments =
      ⟨preparation arguments request (request.command settings) ++
          [.printed (announcement (request.command settings)), .flushed] ++
          before.map (Effect.within (.executing arguments)),
        .error (.starting failure)⟩ := by
  simp [execute, (does_executing host settings stdin arguments).alone_eq,
    prepare_of_unpack_ok settings hrequest, houtput, announce_accepts, h, preparation,
    Effect.within]

theorem execute_of_run_ok {code : Nat}
    (hrequest : Request.unpack arguments = .ok request) (houtput : host.output = .accepts)
    (h : run host stdin (request.command settings) = ⟨before, .ok code⟩) :
    execute host settings stdin arguments =
      ⟨preparation arguments request (request.command settings) ++
          [.printed (announcement (request.command settings)), .flushed] ++
          before.map (Effect.within (.executing arguments)) ++
          [.noted ⟨[.executing arguments], .finished code⟩],
        .ok code⟩ := by
  simp [execute, (does_executing host settings stdin arguments).alone_eq,
    prepare_of_unpack_ok settings hrequest, houtput, announce_accepts, h, did, done, note,
    preparation, Effect.within]

/-- A launch whose command can be prepared takes one of the five courses. -/
theorem execute_course (host : Host) (settings : Settings) (stdin : Bytes)
    (h : Request.unpack arguments = .ok request) :
    Course host stdin arguments request (request.command settings)
      (execute host settings stdin arguments) := by
  cases houtput : host.output with
  | refusesWrite cause taken =>
    rw [execute_of_announce_error stdin h (by rw [houtput]; rfl)]
    exact .unwritten houtput
  | refusesFlush cause =>
    rw [execute_of_announce_error stdin h (by rw [houtput]; rfl)]
    exact .unflushed houtput
  | accepts =>
    cases hzero : (request.command settings).holdsZero with
    | true =>
      rw [execute_of_run_error h houtput (run_of_start_error (start_of_holdsZero host stdin hzero))]
      exact .zeroByte houtput hzero
    | false =>
      cases hstart : host.start (request.command settings) stdin with
      | error cause =>
        rw [execute_of_run_error h houtput (run_of_start_error (start_of_error hzero hstart))]
        exact .refused houtput hzero hstart
      | ok child =>
        rw [execute_of_run_ok h houtput (run_of_start_ok (start_of_ok hzero hstart))]
        exact .ended houtput hzero hstart

/-- Arguments enough for a request come to a command, and the launch of it takes its course. -/
theorem exists_course (host : Host) (settings : Settings) (stdin : Bytes)
    (h : Request.fewest ≤ arguments.length) :
    ∃ request command, Request.unpack arguments = .ok request ∧
      (prepare settings arguments).outcome = .ok command ∧
      Course host stdin arguments request command (execute host settings stdin arguments) := by
  obtain ⟨request, hrequest⟩ := Request.exists_unpack_eq_ok h
  have hprepare : (prepare settings arguments).outcome = .ok (request.command settings) := by
    rw [prepare_of_unpack_ok settings hrequest]
  exact ⟨request, request.command settings, hrequest, hprepare,
    execute_course host settings stdin hrequest⟩

/-! ## What is done before a failure and not after it -/

theorem announcement_eq (command : Command) :
    announcement command = Utf8.encode command.line ++ [Ascii.newline] := by
  have hnewline : Utf8.encodeChar '\n' = [Ascii.newline] := by decide
  simp [announcement, Utf8.encode, hnewline]

theorem holdsZero_iff :
    command.holdsZero = true ↔
      ∃ part ∈ command.program :: command.arguments, Ascii.zero ∈ part := by
  simp only [Command.holdsZero, Command.vector, List.any_eq_true, List.contains_iff_mem]

theorem holdsZero_eq_false_iff :
    command.holdsZero = false ↔ ¬∃ part ∈ command.vector, Ascii.zero ∈ part :=
  Bool.eq_false_iff.trans (not_congr holdsZero_iff)

/-- A launch did this much, noting apart, and then failed; the words are outermost first. -/
def FailsAfter (deeds : Effects) (fault : Fault) (words : List Text)
    (launch : Transcript Fault Nat) : Prop :=
  launch.effects.deeds = deeds ∧ launch.outcome = .error fault ∧ fault.report.chain = words

/-- The stages come in their order, whatever the arguments, the settings and the host: a launch
does everything up to the stage that fails and nothing after it, and asks the host for at most one
start, that of the prepared command. -/
theorem execute_stages (host : Host) (settings : Settings) (stdin : Bytes)
    (arguments : List Bytes) :
    let launch := execute host settings stdin arguments
    if arguments.length < 4 then
      launch.effects = [] ∧
        launch.outcome = .error (.preparing (.tooFewArguments arguments.length 4))
    else
      ∃ command, (prepare settings arguments).outcome = .ok command ∧
        let announced := Utf8.encode command.line ++ [Ascii.newline]
        let unprinted := "Failed to print command line".toList
        let unlaunched := "Failed to launch debugpy in container".toList
        let unstarted := "Process error: failed to spawn `".toList ++ command.line ++ "`".toList
        match host.output with
        | .refusesWrite cause taken =>
          FailsAfter [.printed (announced.take taken)] (.announcing cause)
            [unprinted, cause.message] launch
        | .refusesFlush cause =>
          FailsAfter [.printed announced] (.announcing cause) [unprinted, cause.message] launch
        | .accepts =>
          if ∃ part ∈ command.program :: command.arguments, Ascii.zero ∈ part then
            FailsAfter [.printed announced, .flushed]
                (.starting (.startRefused command.line SystemError.zeroByte))
                [unlaunched, unstarted, SystemError.zeroByte.message] launch ∧
              SystemError.zeroByte.sort = "InvalidInput".toList
          else
            match host.start command stdin with
            | .error cause =>
              FailsAfter [.printed announced, .flushed, .attempted command]
                (.starting (.startRefused command.line cause))
                [unlaunched, unstarted, cause.message] launch
            | .ok child =>
              launch.effects.deeds =
                  [.printed announced, .flushed, .attempted command, .relayed child] ∧
                launch.outcome = .ok child.status.exitCode := by
  intro launch
  split
  next hshort =>
    have hlaunch : launch = _ := execute_of_short host settings stdin hshort
    rw [hlaunch]
    exact ⟨rfl, rfl⟩
  next hlong =>
    obtain ⟨request, command, -, hprepare, hcourse⟩ :=
      exists_course host settings stdin (Nat.le_of_not_lt hlong)
    refine ⟨command, hprepare, ?_⟩
    simp only [← announcement_eq, ← holdsZero_iff]
    subst launch
    generalize execute host settings stdin arguments = launch at hcourse
    cases hcourse with
    | unwritten houtput =>
      rw [houtput]
      exact ⟨rfl, rfl, rfl⟩
    | unflushed houtput =>
      rw [houtput]
      exact ⟨rfl, rfl, rfl⟩
    | zeroByte houtput hzero =>
      simp only [houtput]
      rw [if_pos hzero]
      exact ⟨⟨rfl, rfl, rfl⟩, rfl⟩
    | refused houtput hzero hstart =>
      simp only [houtput]
      rw [if_neg (by simp [hzero]), hstart]
      exact ⟨rfl, rfl, rfl⟩
    | ended houtput hzero hstart =>
      simp only [houtput]
      rw [if_neg (by simp [hzero]), hstart]
      exact ⟨rfl, rfl⟩

end Launch

end ContainerLaunch
