import ContainerLaunch.Host
import ContainerLaunch.Journal.Line

/-! # Transcripts

What a piece of work did, step by step, and what came of it. Every effect the launcher has is in
its transcript, in the order in which they happened; what appears on the standard streams is read
off it. The transcript of a larger piece of work is put together from those of its parts.
-/

namespace ContainerLaunch

inductive Effect where
  | noted (record : Journal.Record)
  /-- Standard output has taken these bytes. -/
  | printed (bytes : Bytes)
  /-- All that was printed has been passed on. -/
  | flushed
  /-- The host was asked to start this command. -/
  | attempted (command : Command)
  /-- A started command has ended, and its output has appeared. -/
  | relayed (child : Child)
  /-- The launcher's own word on standard error. -/
  | complained (text : Text)
  deriving DecidableEq, Repr

namespace Effect

def stdout : Effect → Bytes
  | printed bytes => bytes
  | relayed child => child.stdout
  | _ => []

/-- Nothing of a record is seen while there is no journal. -/
def log (journal : Option Journal) : Effect → Bytes
  | noted record => (journal.map fun current ↦ Utf8.encode (current.entry record)).getD []
  | _ => []

/-- What appears on standard error apart from the journal. -/
def unlogged : Effect → Bytes
  | relayed child => child.stderr
  | complained text => Utf8.encode text
  | _ => []

def stderr (journal : Option Journal) (effect : Effect) : Bytes :=
  effect.log journal ++ effect.unlogged

def record? : Effect → Option Journal.Record
  | noted record => some record
  | _ => none

def attempt? : Effect → Option Command
  | attempted command => some command
  | _ => none

/-- A record is noted within one more activity. -/
def within (span : Journal.Span) : Effect → Effect
  | noted record => noted ⟨span :: record.spans, record.event⟩
  | effect => effect

end Effect

abbrev Effects := List Effect

namespace Effects

def stdout (effects : Effects) : Bytes := effects.flatMap Effect.stdout

def stderr (journal : Option Journal) (effects : Effects) : Bytes :=
  effects.flatMap (Effect.stderr journal)

/-- Standard error as it is with no journal. -/
def unlogged (effects : Effects) : Bytes := effects.flatMap Effect.unlogged

def records (effects : Effects) : List Journal.Record := effects.filterMap Effect.record?

/-- The commands the host was asked to start. -/
def attempts (effects : Effects) : List Command := effects.filterMap Effect.attempt?

/-- Everything done apart from noting. -/
def deeds (effects : Effects) : Effects := effects.filter (·.record?.isNone)

end Effects

structure Transcript (ε α : Type) where
  effects : Effects
  outcome : Except ε α

namespace Transcript

variable {ε ε' α β : Type}

def done (value : α) : Transcript ε α := ⟨[], .ok value⟩

/-- The second piece of work is done only when the first has succeeded. -/
def andThen (first : Transcript ε α) (second : α → Transcript ε β) : Transcript ε β :=
  match first.outcome with
  | .ok value =>
    let later := second value
    ⟨first.effects ++ later.effects, later.outcome⟩
  | .error failure => ⟨first.effects, .error failure⟩

instance : Monad (Transcript ε) where
  pure := done
  bind := andThen

@[simp]
theorem pure_eq_done (value : α) : (pure value : Transcript ε α) = done value := rfl

@[simp]
theorem bind_eq_andThen (first : Transcript ε α) (second : α → Transcript ε β) :
    first >>= second = first.andThen second := rfl

def ofOutcome (outcome : Except ε α) : Transcript ε α := ⟨[], outcome⟩

def did (effect : Effect) : Transcript ε Unit := ⟨[effect], .ok ()⟩

def note (event : Journal.Event) : Transcript ε Unit := did (.noted ⟨[], event⟩)

def within (span : Journal.Span) (work : Transcript ε α) : Transcript ε α :=
  ⟨work.effects.map (Effect.within span), work.outcome⟩

def mapFailure (f : ε → ε') (work : Transcript ε α) : Transcript ε' α :=
  ⟨work.effects, work.outcome.mapError f⟩

end Transcript

end ContainerLaunch
