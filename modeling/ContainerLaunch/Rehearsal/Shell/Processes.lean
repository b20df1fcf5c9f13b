import ContainerLaunch.Rehearsal.Shell.Commands.Names
import ContainerLaunch.Rehearsal.Shell.Redirections
import ContainerLaunch.Rehearsal.Shell.Signals
import ContainerLaunch.Rehearsal.Tools

/-! # Processes

A shell starts other shells and tools, which share its world. They are carried out one after
another, each from its start to its end, and those in the background when they are waited for.
-/

namespace ContainerLaunch.Rehearsal.Shell

namespace Run

/-- Does something and tells how it ended, also if the shell goes no further. -/
def attempt {α : Type} (run : Run α) : Run (Except Stop α) := ExceptT.lift run.run

/-- The number of a new process, which signals can be sent to. -/
def newProcess : Run Nat := do
  let id := (← world).nextId
  changeWorld fun world ↦ { world with nextId := id + 1, alive := id :: world.alive }
  return id

/-- The first number that no process in the background has, or that of one which may be forgotten,
and is forgotten. -/
def freeNumber : Nat → Nat → Run Nat
  | 0, number => return number
  | fuel + 1, number => do
    let state ← get
    match state.process.children.find? (·.number = number) with
    | none => return number
    | some found =>
      if found.waited && (state.world.ended.lookup found.id).isSome then
        changeProcess fun process ↦
          { process with children := process.children.filter (·.number ≠ number) }
        return number
      else freeNumber fuel (number + 1)

/-- Makes room for another process. -/
def makeRoom : Run Nat := do
  freeNumber ((← process).children.length + 1) 1

/-- The exit code that the end of a process counts as. -/
def codeOfStatus (status : Ended) : Nat := status.val.exitCode

/-- The end of a process whose course has come to this. What no shell has turned into an end counts
as an error. -/
def endOf : Except Stop Ended → Ended
  | .ok ended | .error (.ended ended) => ended
  | .error _ => .exited 2

/-- Carries out a process in the place of this one, notes how it ended, and comes back. -/
def asProcess (next : Process) (run : Run Ended) : Run Ended := do
  let own ← process
  changeProcess fun _ ↦ next
  let status := endOf (← attempt run)
  changeWorld fun world ↦
    { world with
      alive := world.alive.filter (· ≠ next.id)
      ended := (next.id, status) :: world.ended }
  changeProcess fun _ ↦ own
  return status

/-- What a new shell has from the one that starts it. Commands that were arranged for signals are
forgotten. -/
def child (id : Nat) (process : Process) : Process :=
  { clearReactions process with
    id := id
    parent := process.id
    children := []
    readLine := process.fileLine
    isSubshell := true
    interrupted := none }

/-! ## Tools -/

/-- The file that a descriptor stands for. -/
def fileOf (descriptor : Nat) : Run (Option Place) := do
  let state ← get
  match (state.process.handles.lookup descriptor).bind (state.world.stream? ·.stream) with
  | some (.file place _ _) => return some place
  | _ => return none

/-- What a tool finds around it. -/
def sceneOf (program : Bytes) : Run Scene := do
  let state ← get
  let input ← unread 0
  let (stdin, trouble) := match input with
    | .ok bytes => (bytes, none)
    | .error cause => ([], some cause)
  return ⟨program, state.world.tree, state.process.working, stdin, trouble, ← fileOf 0, ← fileOf 1⟩

/-- What a tool says of standard output that takes nothing, and the code it ends with. -/
def outputTrouble (tool : Tool) (program : Bytes) (cause : SystemError) : Bytes × Nat :=
  let words := if tool = .concatenate && cause = .badDescriptor then "standard output: "
    else "write error: "
  let line := program ++ said ": " ++ said words ++ reason cause ++ [Ascii.newline]
  (line, if tool = .search then 2 else 1)

/-- Writes what a tool says, up to the first thing that nothing takes. -/
def speak (tool : Tool) (program : Bytes) (code : Nat) : List Utterance → Run Nat
  | [] => return code
  | (voice, bytes) :: later => do
    let descriptor := match voice with
      | .out => 1
      | .err => 2
    match ← if bytes.isEmpty then pure (.ok ()) else write descriptor bytes, voice with
    | .error cause, .out =>
      let (line, code) := outputTrouble tool program cause
      let _ ← write 2 line
      return code
    | _, _ => speak tool program code later

/-- Carries out a tool and tells its exit code. -/
def runTool (tool : Tool) (program : Bytes) (arguments : List Bytes) : Run (Option Nat) := do
  let scene ← sceneOf program
  match perform tool scene arguments with
  | none => return none
  | some performance =>
    if scene.trouble.isNone then leaveUnread 0 performance.unread
    return some (← speak tool program performance.code performance.said)

end Run

/-! ## Other shells -/

/-- How a command is carried out. -/
structure Duty where
  /-- Its exit code is looked at, so that a failure does not end the shell. -/
  tested : Bool := false
  /-- The shell has nothing to do after it. -/
  isLast : Bool := false

/-- What the parts of the evaluation depend on. -/
structure Evaluator where
  command : Duty → Command → Run Flow
  /-- A tool that is a shell, with its name and arguments. -/
  shell : Bytes → List Bytes → Run Ended

namespace Evaluator

open Run

/-- Shows the first bytes of what was left of a script, if that has been asked for. -/
def showLines (reader : Reader) (length : Nat) : Run Unit := do
  if reader.shows && (← hasOption 'v') then
    let _ ← write 2 (reader.rest.take length)

/-- The length of so many lines. -/
def lengthOfLines (count : Nat) (bytes : Bytes) : Nat :=
  ((splitAtEvery Ascii.newline bytes).take count).foldl (· + ·.length + 1) 0

/-- Reads the next line of a script with what the shell knows. -/
def readLine (reader : Reader) : Run (Reading.Next × Reader) := do
  let process ← process
  let reader := { reader with aliases := process.aliases, documentNumber := process.documentNumber }
  match Reading.nextLine.run reader with
  | .ok (next, after) =>
    showLines reader (reader.rest.length - after.rest.length)
    changeProcess fun process ↦
      { process with
        documents := after.documents ++ process.documents
        documentNumber := after.documentNumber
        readLine := after.line
        fileLine := if after.shows then after.line else process.fileLine }
    return (next, { after with documents := [] })
  | .error flaw =>
    showLines reader (lengthOfLines (flaw.line + 1 - reader.line) reader.rest)
    changeProcess ({ · with line := flaw.line })
    fail (said ("Syntax error: " ++ flaw.mistake.message))

/-- Carries out a script line by line; `ran` is the exit code if no command follows. -/
def lines (evaluator : Evaluator) (duty : Duty) : Nat → Nat → Reader → Run Flow
  | 0, _, _ => return .next
  | fuel + 1, ran, reader => do
    match ← readLine reader with
    | (.nothing, _) =>
      setStatus ran
      return .next
    | (.line none, reader) => evaluator.lines duty fuel ran reader
    | (.line (some command), reader) =>
      let flow ← evaluator.command duty command
      if flow = .next then evaluator.lines duty fuel (← process).status reader
      else return flow

/-- Carries out a script that is no process of its own. -/
def script (evaluator : Evaluator) (duty : Duty) (text : Bytes) : Run Flow := do
  let before := (← process).readLine
  let flow ← evaluator.lines duty (text.length + 2) 0 (.ofScript text)
  changeProcess ({ · with readLine := before })
  return flow

/-- How often a shell that is to ignore the end of its script says how it can be left. -/
def mostReminders : Nat := 50

/-- Carries out a script from a file, whose end may be ignored for some time. -/
def fileScript (evaluator : Evaluator) (text : Bytes) : Run Flow := do
  let start := { Reader.ofScript text with shows := true }
  let flow ← evaluator.lines {} (text.length + 2) 0 start
  if flow = .next && (← hasOption 'I') then
    let reminder := said "\nUse \"exit\" to leave shell.\n"
    let _ ← write 2 (List.replicate mostReminders reminder).flatten
  return flow

/-- Runs the commands that a signal or the end of the shell causes, with the exit code before them
kept in mind. -/
def interrupt (evaluator : Evaluator) (commands : Bytes) : Run Flow := do
  let process ← process
  let status := process.interrupted.getD process.status
  changeProcess ({ · with interrupted := some status })
  let flow ← evaluator.script {} commands
  changeProcess ({ · with interrupted := process.interrupted })
  if flow ≠ .returns then setStatus status
  return flow

/-- Runs the commands of all signals that have come, unless one of them leads elsewhere. -/
def handleSignals (evaluator : Evaluator) : Nat → Run Flow
  | 0 => return .next
  | fuel + 1 => do
    let process ← process
    match process.pending with
    | [] => return .next
    | signal :: later =>
      changeProcess ({ · with pending := later })
      match process.reactions.lookup signal with
      | some (.runs commands) =>
        let flow ← evaluator.interrupt commands
        if flow = .next then evaluator.handleSignals fuel else return flow
      | _ => evaluator.handleSignals fuel

/-- Carries out a process in the background from its start to its end. -/
def runJob (evaluator : Evaluator) (finish : Except Stop Flow → Run Ended) (id : Nat) :
    Run Unit := do
  let state ← get
  match state.world.jobs.find? (·.id = id) with
  | none => return ()
  | some job =>
    changeWorld fun world ↦ { world with jobs := world.jobs.filter (·.id ≠ id) }
    let _ ← asProcess job.process do
      let outcome ← attempt do
        receiveSent
        evaluator.command { isLast := true } job.command
      finish outcome

/-- The end of a shell: the commands for it are run, then its processes in the background, which do
not end with it. -/
def finish (evaluator : Evaluator) : Nat → Except Stop Flow → Run Ended
  | _, .error (.ended status) => return status
  | 0, _ => return Ended.exited 2
  | fuel + 1, _ => do
    changeProcess ({ · with interrupted := none })
    let process ← process
    let after ← match process.reactions.lookup 0 with
      | some (.runs commands) =>
        changeProcess fun process ↦
          { process with reactions := process.reactions.filter (·.1 ≠ 0) }
        attempt do
          let _ ← evaluator.interrupt commands
          setStatus process.status
      | _ => pure (.ok ())
    for child in process.children.reverse do
      evaluator.runJob (evaluator.finish fuel) child.id
    match after with
    | .error (.ended status) => return status
    | _ => return Ended.exited (← Run.process).status

/-- Carries out something in a shell of its own, and tells how it ended. -/
def inChild (evaluator : Evaluator) (change : Process → Process) (run : Run Flow) :
    Run Ended := do
  let _ ← makeRoom
  let id ← newProcess
  let next := change (child id (← process))
  let status ← asProcess next do
    evaluator.finish 100 (← attempt run)
  receiveSent
  return status

end Evaluator

end ContainerLaunch.Rehearsal.Shell
