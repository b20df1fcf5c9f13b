import ContainerLaunch.Transcript

/-! # Work in a process

A process is engaged in some activities. One is entered before the work it stands for and left when
that work is over, and a record is noted within the activities that are entered at the time. What a
piece of work leaves entered, the next one finds.
-/

namespace ContainerLaunch

/-- Activities that are entered, the innermost first. -/
abbrev Activities := List Journal.Span

/-- Work that is begun within some activities and leaves some entered behind it. -/
def Work (ε α : Type) : Type := Activities → Transcript ε α × Activities

namespace Work

variable {ε ε' α β : Type}

def done (value : α) : Work ε α := fun entered ↦ (.done value, entered)

/-- The second piece of work is done only when the first has succeeded. -/
def andThen (first : Work ε α) (second : α → Work ε β) : Work ε β := fun entered ↦
  let (before, between) := first entered
  match before.outcome with
  | .ok value =>
    let (later, left) := second value between
    (⟨before.effects ++ later.effects, later.outcome⟩, left)
  | .error failure => (⟨before.effects, .error failure⟩, between)

instance : Monad (Work ε) where
  pure := done
  bind := andThen

def ofOutcome (outcome : Except ε α) : Work ε α := fun entered ↦ (.ofOutcome outcome, entered)

def did (effect : Effect) : Work ε Unit := fun entered ↦ (.did effect, entered)

def note (event : Journal.Event) : Work ε Unit := fun entered ↦
  (.did (.noted ⟨entered.reverse, event⟩), entered)

/-- The activity is left however the work ends. -/
def within (span : Journal.Span) (work : Work ε α) : Work ε α := fun entered ↦
  let (transcript, left) := work (span :: entered)
  (transcript, left.erase span)

def mapFailure (f : ε → ε') (work : Work ε α) : Work ε' α := fun entered ↦
  let (transcript, left) := work entered
  (transcript.mapFailure f, left)

/-- Does the work and goes on however it ends. -/
def attempt (work : Work ε α) : Work ε (Except ε α) := fun entered ↦
  let (transcript, left) := work entered
  (⟨transcript.effects, .ok transcript.outcome⟩, left)

/-- The work of a process that is not engaged in anything else. -/
def alone (work : Work ε α) : Transcript ε α := (work []).1

end Work

end ContainerLaunch
