import ContainerLaunch.Rehearsal.Shell.Compound

/-! # The start of a shell

A shell takes exported variables from the process it is started in, and its options, its script and
its parameters from its arguments. The script is an argument, a file or standard input.
-/

namespace ContainerLaunch.Rehearsal.Shell

namespace Evaluator

open Run

/-! ## What a shell begins with -/

/-- Variables that have the same value at the start of every shell. -/
def fixedVariables : List (String × String) := [("IFS", " \t\n"), ("OPTIND", "1")]

/-- Variables with the values they have unless others are found. -/
def usualVariables : List (String × String) :=
  [("PATH", "/usr/local/sbin:/usr/local/bin:/usr/sbin:/usr/bin:/sbin:/bin"), ("PS1", "# "),
    ("PS2", "> "), ("PS4", "+ ")]

/-- The path from the root to a place. -/
def pathTo (place : Place) : Bytes := Ascii.slash :: [Ascii.slash].intercalate place

/-- The signals that are ignored in a process go on to be ignored in the programs it starts. -/
def deafness (process : Process) : List Nat :=
  process.deaf ++ (process.reactions.filter (·.2 = .ignores)).map (·.1)

/-- A process that becomes a shell of its own and keeps only what every program keeps. -/
def fresh (name : Bytes) (process : Process) : Process where
  id := process.id
  parent := process.parent
  mainId := process.id
  name := name
  parameters := []
  bindings := (process.bindings.filter fun binding ↦ binding.exported && binding.value.isSome).map
    ({ · with isReadOnly := false })
  deaf := deafness process
  handles := process.handles
  working := process.working
  directory := pathTo process.working
  mask := process.mask
  limits := process.limits
  undecided := optionLetters
  line := 0

/-- Sets the variables that every shell has. -/
def setVariables : Run Unit := do
  for (name, value) in fixedVariables do assign (said name) (said value)
  for (name, value) in usualVariables do
    if (← binding? (said name)).isNone then assign (said name) (said value)
  assign (said "PPID") (decimal (← process).parent)
  let state ← get
  let named := (← value? (said "PWD")).filter fun path ↦
    Path.isAbsolute path &&
      (state.world.tree.reach [] path).toOption = some state.process.working
  let directory := named.getD state.process.directory
  assignWith (said "PWD") (some directory) true false
  changeProcess ({ · with directory := directory })

/-! ## Arguments -/

def asksScript : UInt8 := 0x63

def asksLogin : UInt8 := 0x6C

/-- Sets the options in front of the arguments of a shell. Tells whether the first argument after
them is the script, and what these arguments are. -/
def startOptions : Nat → List Bytes → Run (Bool × List Bytes)
  | fuel + 1, (sign :: letters) :: later => do
    if sign = Ascii.hyphen && (letters.isEmpty || letters = [Ascii.hyphen]) then
      return (false, later)
    else if sign = Ascii.hyphen || sign = 0x2B then
      let own := letters.filter fun letter ↦ letter ≠ asksScript && letter ≠ asksLogin
      let (asked, operands) ← startOptions fuel (← Builtin.setLetters sign own later)
      return (letters.contains asksScript || asked, operands)
    else return (false, (sign :: letters) :: later)
  | _, arguments => return (false, arguments)

/-! ## Scripts -/

/-- Carries out what is left of standard input as a script. -/
def inputScript (evaluator : Evaluator) : Run Unit := do
  let text := (← unread 0).toOption.getD []
  leaveUnread 0 []
  let _ ← evaluator.fileScript text

/-- Carries out a file as a script with parameters. -/
def namedScript (evaluator : Evaluator) (name : Bytes) (parameters : List Bytes) : Run Unit := do
  match ← openFile .read name with
  | .error cause => fail (said "cannot open " ++ name ++ said ": " ++ openReason false cause)
  | .ok handle =>
    let text := (← world).unread handle.stream
    changeWorld (·.leaveUnread handle.stream [])
    changeProcess ({ · with name := name, parameters := parameters })
    let _ ← evaluator.fileScript text

/-- Carries out what the arguments of a shell ask for. -/
def begin (evaluator : Evaluator) (arguments : List Bytes) : Run Unit := do
  setVariables
  let name := (← process).name
  let (isGiven, operands) ← always (flush name) (startOptions (arguments.length + 1) arguments)
  changeProcess ({ · with undecided := [] })
  if ← hasOption 'i' then complain (said "can't access tty; job control turned off")
  match isGiven, operands with
  | true, [] => fail (said "-c requires an argument")
  | true, script :: names =>
    changeProcess ({ · with name := names.headD name, parameters := names.drop 1, line := 1 })
    let alsoInput ← hasOption 's'
    let _ ← evaluator.script {} script
    if alsoInput then evaluator.inputScript
  | false, operands =>
    let fromInput ← hasOption 's'
    match operands with
    | [] =>
      Builtin.setOption 0x73 true
      evaluator.inputScript
    | name :: parameters =>
      if fromInput then
        changeProcess ({ · with parameters := operands })
        evaluator.inputScript
      else evaluator.namedScript name parameters

/-- Carries out a shell in the process that it is started in. -/
def main (evaluator : Evaluator) (name : Bytes) (arguments : List Bytes) : Run Ended := do
  changeProcess (fresh name)
  let outcome ← attempt do
    evaluator.begin arguments
    return Flow.next
  evaluator.finish 100 outcome

end Evaluator

end ContainerLaunch.Rehearsal.Shell
