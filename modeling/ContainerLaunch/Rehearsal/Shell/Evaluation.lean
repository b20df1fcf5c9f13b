import ContainerLaunch.Rehearsal.Shell.Commands.Dispatch
import ContainerLaunch.Rehearsal.Shell.Processes

/-! # Evaluation

What each kind of command does. The evaluation of the commands within a command is a parameter of
the evaluation of that command.
-/

namespace ContainerLaunch.Rehearsal.Shell

namespace Evaluator

open Run

/-- Does something afterwards, also if the shell goes no further. -/
def always {α : Type} (after : Run Unit) (run : Run α) : Run α := do
  let outcome ← attempt run
  after
  match outcome with
  | .ok result => return result
  | .error stop => throw stop

/-! ## What commands print -/

def withHandle (descriptor : Nat) (handle : Handle) (process : Process) : Process :=
  { process with
    handles := (descriptor, handle) :: process.handles.filter (·.1 ≠ descriptor) }

/-- The last ends of lines are left out, and so are zero bytes. -/
def withoutLastLines (bytes : Bytes) : Bytes :=
  ((bytes.filter (· ≠ Ascii.zero)).reverse.dropWhile (· = Ascii.newline)).reverse

/-- What some commands print in a shell of their own. -/
def output (evaluator : Evaluator) (commands : Option Command) : Run Bytes := do
  match commands with
  | none =>
    changeProcess ({ · with substituted := 0 })
    return []
  | some command =>
    let handle ← addStream (.channel [] []) false true
    let status ← evaluator.inChild (withHandle 1 handle)
      (evaluator.command { isLast := true } command)
    sayKilled status
    changeProcess ({ · with substituted := codeOfStatus status })
    return withoutLastLines ((← world).unread handle.stream)

/-! ## Redirected commands -/

def Settled.descriptor : Settled → Nat
  | .file descriptor _ _ | .copy descriptor _ | .document descriptor _ => descriptor

/-- Does something with redirections that end with it. If one of them fails it is not done, and
there is no result. -/
def redirected {α : Type} (evaluator : Evaluator) (settled : List Settled) (run : Run α) :
    Run (Option α) := do
  let before := (← process).handles
  let restore : Run Unit := settled.forM fun redirection ↦
    setHandle (Settled.descriptor redirection) (before.lookup (Settled.descriptor redirection))
  always restore do
    if ← survives (settled.forM (redirect evaluator.output)) then return some (← run)
    else return none

/-! ## Programs -/

/-- Whether commands have been arranged for a signal or the end of the shell. -/
def hasReactions : Run Bool :=
  return (← process).reactions.any fun (_, reaction) ↦ reaction ≠ .ignores

/-- Carries out a tool in this process. -/
def program (evaluator : Evaluator) (tool : Tool) (name : Bytes) (arguments : List Bytes) :
    Run Ended := do
  match ← runTool tool name arguments with
  | some code => return Ended.exited code
  | none => evaluator.shell name arguments

/-- Puts a tool in the place of this shell, or lets it run as a process of its own. -/
def startTool (evaluator : Evaluator) (duty : Duty) (tool : Tool) (name : Bytes)
    (arguments : List Bytes) : Run Unit := do
  if duty.isLast && !(← hasReactions) then
    throw (.ended (← evaluator.program tool name arguments))
  else
    let _ ← makeRoom
    let id ← newProcess
    let status ← asProcess (child id (← process)) (evaluator.program tool name arguments)
    sayKilled status
    setStatus (codeOfStatus status)
    receiveSent

/-- The exit code of a program that cannot be started. -/
def startCode (cause : SystemError) : Nat :=
  if [.missing, .notDirectory, .tooManyLinks, .nameTooLong].contains cause then 127 else 126

/-- The tool at a path that has been written out. -/
def toolAt (path : Bytes) : Run (Except SystemError Tool) := do
  let state ← get
  return state.world.tree.toolAt state.process.working path

/-- Puts a program in the place of this shell for good. -/
def exec (evaluator : Evaluator) (arguments : List Bytes) : Run Unit := do
  match arguments with
  | [] => return ()
  | name :: arguments =>
    let refuse (cause : SystemError) : Run Unit := do
      setStatus (startCode cause)
      complain (name ++ said ": " ++ startReason cause)
      throw .exit
    let found ←
      if name.contains Ascii.slash then toolAt name
      else
        let state ← get
        pure (state.world.tree.search state.process.working name false (← searchPath))
    match found with
    | .ok tool => throw (.ended (← evaluator.program tool name arguments))
    | .error cause => refuse cause

/-! ## Functions -/

/-- How many functions may be within each other. -/
def deepestFunction : Nat := 1000

/-- Calls a function with parameters of its own. -/
def call (evaluator : Evaluator) (duty : Duty) (function : Function) (arguments : List Bytes) :
    Run Flow := do
  let before ← process
  if before.functionDepth ≥ deepestFunction then
    fail (said "Maximum function recursion depth (1000) reached")
  else
    let restore : Run Unit := changeProcess fun process ↦
      { process with
        parameters := before.parameters
        loops := before.loops
        functionDepth := before.functionDepth
        optionIndex := before.optionIndex
        optionPlace := before.optionPlace }
    always restore do
      changeProcess fun process ↦
        { process with
          parameters := arguments
          loops := 0
          functionDepth := before.functionDepth + 1
          optionIndex := 1
          optionPlace := none }
      let _ ← evaluator.command { tested := duty.tested } function.body
      return .next

/-! ## Commands of the shell itself that evaluate others -/

/-- The text of a file that is to be read as a script. -/
def scriptFile (name : Bytes) : Run Bytes := do
  let refuse (path : Bytes) (cause : SystemError) : Run Bytes :=
    fail (said "cannot open " ++ path ++ said ": " ++ openReason false cause)
  let contentOf (path : Bytes) : Run (Except SystemError Bytes) := do
    match ← openFile .read path with
    | .ok handle => return .ok ((← world).unread handle.stream)
    | .error cause => return .error cause
  if name.contains Ascii.slash then
    match ← contentOf name with
    | .ok content => return content
    | .error cause => refuse name cause
  else
    let candidates := (← searchPath).map fun directory ↦ directory ++ Ascii.slash :: name
    let state ← get
    let isFile (path : Bytes) : Bool :=
      match state.world.tree.resolve state.process.working path with
      | .ok (.file _) => true
      | _ => false
    match candidates.find? isFile with
    | some path =>
      match ← contentOf path with
      | .ok content => return content
      | .error cause => refuse path cause
    | none => fail (name ++ said ": not found")

/-- Carries out a file in this shell. -/
def source (evaluator : Evaluator) (arguments : List Bytes) : Run Flow := do
  match (← options "" "" arguments).operands with
  | [] =>
    setStatus 0
    return .next
  | name :: _ =>
    let content ← scriptFile name
    changeProcess ({ · with command := some name })
    match ← evaluator.script {} content with
    | .returns => return .next
    | flow => return flow

def eval (evaluator : Evaluator) (duty : Duty) (arguments : List Bytes) : Run Flow :=
  evaluator.script { tested := duty.tested } ([Ascii.blank].intercalate arguments)

/-- Notes that a process in the background has been waited for. -/
def noteWaited (id : Nat) : Run Unit := changeProcess fun process ↦
  { process with
    children := process.children.map fun child ↦
      if child.id = id then { child with waited := true } else child }

/-- Waits for one process and tells its exit code. -/
def waitFor (evaluator : Evaluator) (word : Bytes) : Run Nat := do
  let found ← if word.head? = some Background.sign then some <$> backgroundNamed word
    else
      let id ← countOf word
      pure ((← process).children.find? (·.id = id))
  match found with
  | none => return 127
  | some child =>
    let waiting := (← world).jobs.map (·.id)
    let isNew := waiting.contains child.id
    if isNew then
      for id in waiting do
        if id ≤ child.id then evaluator.runJob (evaluator.finish 100) id
    match (← world).ended.lookup child.id with
    | some status =>
      if isNew then sayKilled status
      noteWaited child.id
      return codeOfStatus status
    | none => return 127

def wait (evaluator : Evaluator) (arguments : List Bytes) : Run Nat := do
  match (← options "" "" arguments).operands with
  | [] =>
    for child in (← process).children.reverse do
      evaluator.runJob (evaluator.finish 100) child.id
      noteWaited child.id
    receiveSent
    return 0
  | words =>
    let status ← words.foldlM (fun _ word ↦ evaluator.waitFor word) 0
    receiveSent
    return status

/-- What the command that looks names up is asked for, if it is not to carry out a command. -/
def commandOptions (arguments : List Bytes) : Run Nat := do
  let options ← options "pvV" "" arguments
  match options.operands with
  | [] => return 0
  | name :: _ =>
    if options.has 'v' || options.has 'V' then describe (options.has 'V') name else return 0

/-- A command of the shell itself. -/
def own (evaluator : Evaluator) (duty : Duty) (name : String) (arguments : List Bytes) :
    Run Flow := do
  let withStatus (run : Run Nat) : Run Flow := do
    setStatus (← run)
    return .next
  match name with
  | "eval" => evaluator.eval duty arguments
  | "." => evaluator.source arguments
  | "exec" =>
    evaluator.exec arguments
    withStatus (pure 0)
  | "exit" =>
    match ← Builtin.codeOf arguments with
    | some code => setStatus code
    | none =>
      let process ← process
      setStatus (process.interrupted.getD process.status)
    throw .exit
  | "return" =>
    match ← Builtin.codeOf arguments with
    | some code => setStatus code
    | none => pure ()
    return .returns
  | "break" | "continue" =>
    let count ← Builtin.loopsOf arguments
    setStatus 0
    return if count = 0 then .next else if name = "break" then .breaks count else .continues count
  | "wait" => withStatus (evaluator.wait arguments)
  | "command" => withStatus (commandOptions arguments)
  | _ =>
    match Builtin.byName name arguments with
    | some run => withStatus run
    | none => return .next

/-- Writes what a command has printed. -/
def flush (name : Bytes) : Run Unit := do
  let printed := (← process).printed.reverse.flatten
  changeProcess ({ · with printed := [] })
  if !printed.isEmpty then
    match ← write 1 printed with
    | .ok () => return ()
    | .error _ =>
      complain (name ++ said ": I/O error")
      setStatus ((← process).status ||| 1)

/-- Carries out a command of the shell itself. Only an error of a special one ends the shell. -/
def runOwn (evaluator : Evaluator) (duty : Duty) (special : Bool) (name : String)
    (arguments : List Bytes) : Run Flow := do
  let before := (← process).command
  changeProcess ({ · with command := some (said name) })
  let outcome ← attempt (evaluator.own duty name arguments)
  flush (said name)
  changeProcess ({ · with command := before })
  match outcome with
  | .ok flow => return flow
  | .error .error => if special then throw .error else return .next
  | .error stop => throw stop

end Evaluator

end ContainerLaunch.Rehearsal.Shell
