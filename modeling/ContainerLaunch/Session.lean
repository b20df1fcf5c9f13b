import ContainerLaunch.Journal.Keeper
import ContainerLaunch.Plan

/-! # Sessions

The operations of the library one after another in one process. A step finds the process as the one
before has left it: with the state of the keeper of its journal, and engaged in the activities that
have been entered and not left.
-/

namespace ContainerLaunch.Session

/-- A value to be shown the way the log shows it. -/
inductive Subject where
  | byteString (value : Bytes)
  | settings (settings : Settings)
  /-- The arguments accepted from a command line. -/
  | accepted (argv : List Bytes)
  | request (arguments : List Bytes)
  | command (settings : Settings) (arguments : List Bytes)

/-- What the library can be asked, the opening of the journal apart. -/
inductive Operation where
  | defaults
  | accept (argv : List Bytes)
  | configure (value : Option Bytes)
  | qualify (host address : Bytes)
  | unpack (arguments : List Bytes)
  | prepare (settings : Settings) (arguments : List Bytes)
  | format (command : Command)
  | compare (settings₁ : Settings) (arguments₁ : List Bytes)
      (settings₂ : Settings) (arguments₂ : List Bytes)
  | display (subject : Subject)
  | plan (argv : List Bytes) (environment : Option Bytes)
  | exitCode (status : WaitStatus)
  | explain (failure : Failure) (context : Option Text)
  | run (command : Command) (stdin : Bytes)
  | execute (settings : Settings) (arguments : List Bytes) (stdin : Bytes)

/-- What two requests and their commands have in common. -/
structure Comparison where
  request : Bool
  command : Bool
  line : Bool
  deriving DecidableEq, Repr

inductive Answer where
  | defaults (settings : Settings)
  | accepted (outcome : Except Intake.Refusal (List Bytes))
  | configured (settings : Settings)
  | qualified (address : Bytes)
  | unpacked (outcome : Except Failure Request)
  | prepared (outcome : Except Failure Command)
  | formatted (command : Command)
  | compared (outcome : Except Failure Comparison)
  | displayed (text : Text)
  /-- A command line was refused before there was anything to show. -/
  | refused (refusal : Intake.Refusal)
  /-- There was nothing to show, since the arguments make no request. -/
  | failed (failure : Failure)
  | planned (settings : Settings) (arguments : List Bytes) (outcome : Except Failure Command)
  | exitCode (code : Nat)
  | explained (failure : Failure) (report : Report)
  | ran (outcome : Except Failure Nat)
  | executed (outcome : Except Fault Nat)
  | opened (outcome : Except Failure Unit)

/-- What is done in a step, the answer to it, and the activities it leaves behind. -/
abbrev Deed := Activities → (Effects × Answer) × Activities

namespace Deed

/-- Answers and does nothing else. -/
def answering (answer : Answer) : Deed := fun entered ↦ (([], answer), entered)

def working {ε α : Type} (answer : Except ε α → Answer) (work : Work ε α) : Deed := fun entered ↦
  let (transcript, left) := work entered
  ((transcript.effects, answer transcript.outcome), left)

end Deed

/-- Both requests are unpacked before anything is said of them. -/
def comparing (settings₁ : Settings) (arguments₁ : List Bytes) (settings₂ : Settings)
    (arguments₂ : List Bytes) : Work Failure Comparison := do
  let first ← (Launch.unpacking arguments₁).attempt
  let second ← (Launch.unpacking arguments₂).attempt
  .ofOutcome do
    let request₁ ← first
    let request₂ ← second
    let command₁ := request₁.command settings₁
    let command₂ := request₂.command settings₂
    return ⟨request₁ = request₂, command₁ = command₂, command₁.line = command₂.line⟩

namespace Subject

def display : Subject → Deed
  | byteString value => .answering (.displayed (Quoted.write value))
  | settings value => .answering (.displayed value.shown)
  | accepted argv =>
    match Intake.accept argv with
    | .ok arguments => .answering (.displayed (Intake.shown arguments))
    | .error refusal => .answering (.refused refusal)
  | request arguments => unpacked Request.shown arguments
  | command chosen arguments => unpacked (fun value ↦ (value.command chosen).shown) arguments
where
  unpacked (shown : Request → Text) (arguments : List Bytes) : Deed :=
    .working (fun
      | .ok value => .displayed (shown value)
      | .error failure => .failed failure) (Launch.unpacking arguments)

end Subject

namespace Operation

/-- No journal has any part in what an operation does. -/
def perform (host : Host) : Operation → Deed
  | defaults => .answering (.defaults {})
  | accept argv => .answering (.accepted (Intake.accept argv))
  | configure value => .answering (.configured (.ofEnvironment value))
  | qualify hostName address => .answering (.qualified (Address.qualify hostName address))
  | unpack arguments => .working .unpacked (Launch.unpacking arguments)
  | prepare settings arguments => .working .prepared (Launch.preparing settings arguments)
  | format command => .answering (.formatted command)
  | compare settings₁ arguments₁ settings₂ arguments₂ =>
    .working .compared (comparing settings₁ arguments₁ settings₂ arguments₂)
  | display subject => subject.display
  | plan argv environment =>
    match Plan.make argv environment with
    | .ok made => .working (.planned made.settings made.arguments) made.work
    | .error refusal => .answering (.refused refusal)
  | exitCode status => .answering (.exitCode status.exitCode)
  | explain failure context =>
    let report := failure.report
    .answering (.explained failure ((context.map report.within).getD report))
  | run command stdin => .working .ran (Launch.running host stdin command)
  | execute settings arguments stdin =>
    .working .executed (Launch.executing host settings stdin arguments)

end Operation

inductive Step where
  | openJournal (debug : Bool)
  | perform (operation : Operation)

/-- What a step did and answered, and the journal that was open while it did so. -/
structure Entry where
  answer : Answer
  effects : Effects
  journal : Option Journal

namespace Entry

def stdout (entry : Entry) : Bytes := entry.effects.stdout

def stderr (entry : Entry) : Bytes := entry.effects.stderr entry.journal

end Entry

/-- A process between two steps. -/
structure Process (keeper : Journal.Keeper) where
  kept : keeper.State
  entered : Activities

/-- Hands a journal over to the keeper. -/
def openJournal (keeper : Journal.Keeper) (style : Journal.Style) (debug : Bool)
    (kept : keeper.State) : Except Failure Unit × keeper.State :=
  let (outcome, later) := keeper.take ⟨.ofDebug debug, style⟩ kept
  (outcome.mapError fun reason ↦ .noLog ("Failed to initialize logging: ".toList ++ reason), later)

section Steps

variable {keeper : Journal.Keeper}

/-- One step, and the process after it. -/
def advance (host : Host) (style : Journal.Style) (process : Process keeper) :
    Step → Entry × Process keeper
  | .openJournal debug =>
    let (outcome, kept) := openJournal keeper style debug process.kept
    (⟨.opened outcome, [], keeper.journal kept⟩, { process with kept })
  | .perform operation =>
    let ((effects, answer), entered) := operation.perform host process.entered
    (⟨answer, effects, keeper.journal process.kept⟩, { process with entered })

def runFrom (host : Host) (style : Journal.Style) : Process keeper → List Step → List Entry
  | _, [] => []
  | process, step :: later =>
    let (entry, next) := advance host style process step
    entry :: runFrom host style next later

end Steps

/-- A session begins in a process of its own. The style of its journal is settled by the environment
of that process, not by a step. -/
def run (host : Host) (steps : List Step) (style : Journal.Style := .plain)
    (keeper : Journal.Keeper := .single) : List Entry :=
  runFrom host style (⟨keeper.fresh, []⟩ : Process keeper) steps

end ContainerLaunch.Session
