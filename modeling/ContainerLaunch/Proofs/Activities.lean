import ContainerLaunch.Launch
import Mathlib.Data.List.Basic

/-!
# Activities and what is left of them

Every stage of a launch leaves the activities that it finds, whichever they are and however the
stage ends.  What it does depends on them in one way only: its records are noted within them.  So
a stage has one transcript, which is put together from those of its parts, and work that is done
within other activities has the same transcript set within them.
-/

namespace ContainerLaunch

/-- A record is noted within all of these activities. -/
def Effect.under (entered : Activities) : Effect → Effect
  | noted record => noted ⟨entered.reverse ++ record.spans, record.event⟩
  | effect => effect

theorem Effect.under_nil (effect : Effect) : effect.under [] = effect := by
  cases effect <;> rfl

theorem Effect.under_cons (span : Journal.Span) (entered : Activities) (effect : Effect) :
    effect.under (span :: entered) = (effect.within span).under entered := by
  cases effect with
  | noted record => simp [under, within]
  | printed | flushed | attempted | relayed | complained => rfl

theorem Effect.under_of_not_noted {effect : Effect} (h : effect.record? = none)
    (entered : Activities) : effect.under entered = effect := by
  cases effect with
  | noted => cases h
  | printed | flushed | attempted | relayed | complained => rfl

namespace Transcript

variable {ε α : Type}

def under (entered : Activities) (transcript : Transcript ε α) : Transcript ε α :=
  ⟨transcript.effects.map (Effect.under entered), transcript.outcome⟩

theorem under_nil (transcript : Transcript ε α) : transcript.under [] = transcript := by
  unfold under
  rw [funext Effect.under_nil, List.map_id']

theorem under_cons (span : Journal.Span) (entered : Activities) (transcript : Transcript ε α) :
    transcript.under (span :: entered) = (transcript.within span).under entered := by
  unfold under within
  rw [funext (Effect.under_cons span entered), List.map_map]
  rfl

end Transcript

/-! ## Work and its transcript -/

namespace Work

variable {ε ε' α β : Type} {work : Work ε α} {transcript : Transcript ε α}

/-- Whatever activities the work is done within, it has this transcript, with its records noted
within them, and leaves them entered as it finds them. -/
def Does (work : Work ε α) (transcript : Transcript ε α) : Prop :=
  ∀ entered, work entered = (transcript.under entered, entered)

namespace Does

theorem alone_eq (h : Does work transcript) : work.alone = transcript := by
  unfold alone
  rw [h, Transcript.under_nil]

/-- The transcript of the work is what it does alone. -/
theorem does_alone (h : Does work transcript) : Does work work.alone := by
  rwa [h.alone_eq]

theorem done (value : α) : Does (.done value : Work ε α) (.done value) := fun _ ↦ rfl

theorem ofOutcome (outcome : Except ε α) : Does (.ofOutcome outcome) (.ofOutcome outcome) :=
  fun _ ↦ rfl

theorem note (event : Journal.Event) : Does (.note event : Work ε Unit) (.note event) := by
  intro entered
  simp [Work.note, Transcript.note, Transcript.did, Transcript.under, Effect.under]

theorem did {effect : Effect} (h : effect.record? = none) :
    Does (.did effect : Work ε Unit) (.did effect) := by
  intro entered
  simp [Work.did, Transcript.did, Transcript.under, Effect.under_of_not_noted h]

theorem andThen {second : α → Work ε β} {later : α → Transcript ε β} (h : Does work transcript)
    (hsecond : ∀ value, Does (second value) (later value)) :
    Does (work.andThen second) (transcript.andThen later) := by
  intro entered
  obtain ⟨effects, outcome⟩ := transcript
  unfold Work.andThen
  rw [h]
  cases outcome with
  | error failure => rfl
  | ok value => simp [hsecond value entered, Transcript.under, Transcript.andThen]

/-- The activity is entered and left again. -/
theorem within (span : Journal.Span) (h : Does work transcript) :
    Does (work.within span) (transcript.within span) := by
  intro entered
  unfold Work.within
  rw [h, Transcript.under_cons]
  exact congrArg (Prod.mk _) (List.erase_cons_head span entered)

theorem mapFailure (f : ε → ε') (h : Does work transcript) :
    Does (work.mapFailure f) (transcript.mapFailure f) := by
  intro entered
  unfold Work.mapFailure
  rw [h]
  rfl

theorem attempt (h : Does work transcript) :
    Does work.attempt ⟨transcript.effects, .ok transcript.outcome⟩ := by
  intro entered
  unfold Work.attempt
  rw [h]
  rfl

end Does

end Work

/-! ## The stages of a launch -/

namespace Launch

open Work

variable (host : Host) (settings : Settings) (stdin : Bytes) (arguments : List Bytes)
  (command : Command)

theorem does_unpacking : Does (unpacking arguments) do
    let request ← .ofOutcome (Request.unpack arguments)
    .note (.unpacked request)
    return request :=
  (Does.ofOutcome _).andThen fun request ↦ (Does.note _).andThen fun _ ↦ Does.done request

theorem does_preparing : Does (preparing settings arguments) <|
    .within (.preparing arguments) do
      let request ← unpack arguments
      .note (.prepared (request.command settings))
      return request.command settings := by
  refine Does.within _ ((does_unpacking arguments).does_alone.andThen fun request ↦ ?_)
  exact (Does.note _).andThen fun _ ↦ Does.done _

theorem does_announcing (output : Output) : Does (announcing output command)
    (match output with
    | .accepts => do
      .did (.printed (announcement command))
      .did .flushed
    | .refusesWrite cause taken => do
      .did (.printed ((announcement command).take taken))
      .ofOutcome (.error cause)
    | .refusesFlush cause => do
      .did (.printed (announcement command))
      .ofOutcome (.error cause)) := by
  cases output with
  | accepts => exact (Does.did rfl).andThen fun _ ↦ Does.did rfl
  | refusesWrite cause taken => exact (Does.did rfl).andThen fun _ ↦ Does.ofOutcome _
  | refusesFlush cause => exact (Does.did rfl).andThen fun _ ↦ Does.ofOutcome _

theorem does_starting : Does (starting host stdin command) <|
    if command.holdsZero then .ofOutcome (.error .zeroByte)
    else do
      .did (.attempted command)
      let child ← .ofOutcome (host.start command stdin)
      .did (.relayed child)
      return child := by
  unfold starting
  split
  · exact Does.ofOutcome _
  · refine (Does.did rfl).andThen fun _ ↦ (Does.ofOutcome _).andThen fun child ↦ ?_
    exact (Does.did rfl).andThen fun _ ↦ Does.done child

theorem does_running : Does (running host stdin command) <|
    .within (.child command.program) do
      .note (.running command)
      let child ← (start host stdin command).mapFailure fun (cause : SystemError) ↦
        .startRefused command.line cause
      .note (verdict child.status)
      return child.status.exitCode := by
  have hstarting := (does_starting host stdin command).does_alone
  refine Does.within _ ((Does.note _).andThen fun _ ↦ ?_)
  exact (hstarting.mapFailure _).andThen fun _ ↦ (Does.note _).andThen fun _ ↦ Does.done _

theorem does_executing : Does (executing host settings stdin arguments) <|
    .within (.executing arguments) do
      let command ← (prepare settings arguments).mapFailure .preparing
      (announce host.output command).mapFailure .announcing
      let code ← (run host stdin command).mapFailure .starting
      .note (.finished code)
      return code := by
  have hpreparing := (does_preparing settings arguments).does_alone
  have hannouncing (command : Command) := (does_announcing command host.output).does_alone
  have hrunning (command : Command) := (does_running host stdin command).does_alone
  refine Does.within _ ((hpreparing.mapFailure _).andThen fun command ↦ ?_)
  refine ((hannouncing command).mapFailure _).andThen fun _ ↦ ?_
  exact ((hrunning command).mapFailure _).andThen fun _ ↦ (Does.note _).andThen fun _ ↦ Does.done _

end Launch

end ContainerLaunch
