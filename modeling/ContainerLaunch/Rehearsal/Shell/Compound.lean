import ContainerLaunch.Rehearsal.Shell.Simple

/-! # Commands made of commands

Pipelines, lists, choices, loops and the like. Whatever a command is, the signals that have come are
handled after it, and it may end the shell by its failure.
-/

namespace ContainerLaunch.Rehearsal.Shell

/-- Where a shell goes on after a round of a loop, unless the loop goes on. -/
def Flow.outside : Flow → Option Flow
  | .next => none
  | .breaks count => some (if count ≤ 1 then .next else .breaks (count - 1))
  | .continues count => if count ≤ 1 then none else some (.continues (count - 1))
  | .returns => some .returns

namespace Evaluator

open Run

def atLine (line : Nat) : Run Unit := changeProcess ({ · with line := line })

/-- Carries out a command if there is one. -/
def optional (evaluator : Evaluator) (duty : Duty) : Option Command → Run Flow
  | some command => evaluator.command duty command
  | none => return .next

/-! ## Processes -/

/-- Carries out commands of which each one reads what the one before has written. -/
def members (evaluator : Evaluator) (duty : Duty) :
    Option Handle → List Command → Run (List Ended)
  | _, [] => return []
  | input, command :: later => do
    let channel ← if later.isEmpty then pure none
      else some <$> addStream (.channel [] []) false true
    let connect (descriptor : Nat) (handle : Option Handle) (process : Process) : Process :=
      match handle with
      | some handle => withHandle descriptor handle process
      | none => process
    let status ← evaluator.inChild (fun process ↦ connect 1 channel (connect 0 input process))
      (evaluator.command { duty with isLast := true } command)
    let next := channel.map fun handle ↦ ⟨handle.stream, true, false⟩
    return status :: (← evaluator.members duty next later)

def pipeline (evaluator : Evaluator) (duty : Duty) (commands : List Command) : Run Flow := do
  let statuses ← evaluator.members duty none commands
  statuses.forM sayKilled
  setStatus ((statuses.getLast?.map codeOfStatus).getD 0)
  return .next

/-- The signals that processes in the background are deaf to. -/
def backgroundDeaf : List Nat := [2, 3]

/-- Starts a process in the background, which finds nothing on standard input. -/
def inBackground (command : Command) : Run Flow := do
  let number ← makeRoom
  let id ← newProcess
  let input ← addStream (.device .null) true false
  let next := withHandle 0 input (child id (← process))
  let job : Job := ⟨id, { next with deaf := backgroundDeaf ++ next.deaf }, command⟩
  changeWorld fun world ↦ { world with jobs := world.jobs ++ [job] }
  changeProcess fun process ↦
    { process with
      children := ⟨number, id, false⟩ :: process.children, lastChild := some id, status := 0 }
  return .next

def subshell (evaluator : Evaluator) (duty : Duty) (line : Nat) (body : Option Command)
    (redirections : List Redirection) : Run Flow := do
  atLine line
  let settled ← redirections.mapM (settle evaluator.output)
  let inside : Run Flow := do
    settled.forM (redirect evaluator.output)
    evaluator.optional { duty with isLast := true } body
  if duty.isLast && !(← hasReactions) then
    let _ ← inside
    throw .exit
  else
    let status ← evaluator.inChild id inside
    sayKilled status
    setStatus (codeOfStatus status)
    return .next

/-! ## Lists -/

/-- Carries out one command and, if its exit code is such, another one. -/
def inOrder (evaluator : Evaluator) (duty : Duty) (tested : Bool) (goesOn : Nat → Bool)
    (first second : Command) : Run Flow := do
  let flow ← evaluator.command { tested := tested } first
  if flow = .next && goesOn (← process).status then evaluator.command duty second
  else return flow

def withRedirections (evaluator : Evaluator) (duty : Duty) (line : Nat) (body : Option Command)
    (redirections : List Redirection) : Run Flow := do
  atLine line
  let settled ← redirections.mapM (settle evaluator.output)
  match ← evaluator.redirected settled (evaluator.optional { tested := duty.tested } body) with
  | some flow => return flow
  | none =>
    if !duty.tested && (← hasOption 'e') then throw .exit
    return .next

/-! ## Choices -/

def choice (evaluator : Evaluator) (duty : Duty) (test yes no : Option Command) : Run Flow := do
  let flow ← evaluator.optional { tested := true } test
  if flow ≠ .next then return flow
  else if (← process).status = 0 then evaluator.optional duty yes
  else
    if no.isNone then setStatus 0
    evaluator.optional duty no

/-- Whether one of some patterns matches a text. -/
def matchesAny (output : Option Command → Run Bytes) (text : Bytes) : List Word → Run Bool
  | [] => return false
  | word :: later => do
    if matchesPattern (← expandPattern output word) text then return true
    else matchesAny output text later

/-- The commands of the first case that matches a text. -/
def selected (output : Option Command → Run Bytes) (text : Bytes) :
    List (List Word × Option Command) → Run (Option Command)
  | [] => return none
  | (words, body) :: later => do
    if ← matchesAny output text words then return body else selected output text later

def select (evaluator : Evaluator) (duty : Duty) (line : Nat) (word : Word)
    (cases : List (List Word × Option Command)) : Run Flow := do
  atLine line
  let text ← expandWhole evaluator.output .atFront word
  let body ← selected evaluator.output text cases
  if body.isNone then setStatus 0
  evaluator.optional duty body

/-! ## Loops -/

/-- A loop with more rounds is one that only ends when nothing takes what it writes. -/
def mostRounds : Nat := 250000

/-- Carries out rounds of a loop; `status` is the exit code of the last one. -/
def rounds (evaluator : Evaluator) (duty : Duty) (inverted : Bool) (test body : Option Command) :
    Nat → Nat → Run Flow
  | 0, _ => throw (.ended (.killed 13 (by decide) (by decide)))
  | fuel + 1, status => do
    let flow ← evaluator.optional { tested := true } test
    let holds := (((← process).status = 0) : Bool) != inverted
    match flow, flow.outside with
    | _, some .returns => return .returns
    | _, some flow =>
      setStatus status
      return flow
    | .next, none =>
      if !holds then
        setStatus status
        return .next
      else
        let flow ← evaluator.optional duty body
        match flow.outside with
        | some flow => return flow
        | none => rounds evaluator duty inverted test body fuel (← process).status
    | _, none => rounds evaluator duty inverted test body fuel status

/-- Carries out the body of a loop for every field. -/
def forFields (evaluator : Evaluator) (duty : Duty) (name : Bytes) (body : Option Command) :
    List Bytes → Run Flow
  | [] => return .next
  | field :: later => do
    assign name field
    let flow ← evaluator.optional duty body
    match flow.outside with
    | some flow => return flow
    | none => forFields evaluator duty name body later

/-- Does something as a loop within the loops around. -/
def asLoop (run : Run Flow) : Run Flow := do
  changeProcess fun process ↦ { process with loops := process.loops + 1 }
  let flow ← run
  changeProcess fun process ↦ { process with loops := process.loops - 1 }
  return flow

def each (evaluator : Evaluator) (duty : Duty) (line : Nat) (name : Bytes) (words : List Word)
    (body : Option Command) : Run Flow := do
  atLine line
  let fields ← expandArguments evaluator.output words
  if fields.isEmpty then setStatus 0
  asLoop (evaluator.forFields { tested := duty.tested } name body fields)

/-! ## All commands -/

def define (name : Bytes) (body : Command) : Run Flow := do
  changeProcess fun process ↦
    { process with
      functions := ⟨name, body⟩ :: process.functions.filter (·.name ≠ name), status := 0 }
  return .next

def carryOut (evaluator : Evaluator) (duty : Duty) : Command → Run Flow
  | .simple line assignments words redirections =>
    evaluator.simple duty line assignments words redirections
  | .pipeline true commands => inBackground (.pipeline false commands)
  | .pipeline false commands => evaluator.pipeline duty commands
  | .sequence first second => evaluator.inOrder duty duty.tested (fun _ ↦ true) first second
  | .and first second => evaluator.inOrder duty true (· = 0) first second
  | .or first second => evaluator.inOrder duty true (· ≠ 0) first second
  | .not command => do
    let flow ← evaluator.command { tested := true } command
    if flow = .next then setStatus (if (← process).status = 0 then 1 else 0)
    return flow
  | .redirected line body redirections =>
    evaluator.withRedirections duty line body redirections
  | .subshell line body redirections => evaluator.subshell duty line body redirections
  | .background body => inBackground body
  | .choice test yes no => evaluator.choice duty test yes no
  | .loop inverted test body =>
    asLoop (evaluator.rounds { tested := duty.tested } inverted test body mostRounds 0)
  | .each line name words body => evaluator.each duty line name words body
  | .select line word cases => evaluator.select duty line word cases
  | .define name body => define name body

/-- Whether the failure of a command may end the shell. -/
def countsFailure : Command → Bool
  | .simple _ _ _ _ | .pipeline _ _ | .subshell _ _ _ | .background _ => true
  | _ => false

/-- How many commands signals can cause one after another. -/
def mostInterruptions : Nat := 1000

/-- Carries out a command and what has to be done after it. -/
def step (evaluator : Evaluator) (duty : Duty) (command : Command) : Run Flow := do
  if ← hasOption 'n' then return .next
  let flow ← evaluator.carryOut duty command
  let failed := (← process).status ≠ 0 && countsFailure command
  let flow ← if flow = .next then evaluator.handleSignals mostInterruptions else pure flow
  if failed && !duty.tested && (← hasOption 'e') then throw .exit
  return flow

end Evaluator

end ContainerLaunch.Rehearsal.Shell
