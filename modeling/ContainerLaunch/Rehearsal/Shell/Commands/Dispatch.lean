import ContainerLaunch.Rehearsal.Shell.Commands.Names
import ContainerLaunch.Rehearsal.Shell.Commands.Parameters
import ContainerLaunch.Rehearsal.Shell.Commands.Places
import ContainerLaunch.Rehearsal.Shell.Commands.Processes
import ContainerLaunch.Rehearsal.Shell.Condition
import ContainerLaunch.Rehearsal.Shell.Format
import ContainerLaunch.Rehearsal.Shell.Signals

/-! # The shell's own commands

The commands that need nothing but the state of the shell, by their names.
-/

namespace ContainerLaunch.Rehearsal.Shell.Builtin

open Run

/-- What arguments are printed as; a hyphen and an `n` in front leave out the end of the line. -/
def echoed (arguments : List Bytes) : Bytes :=
  let bare := arguments.head? = some (said "-n")
  let words := if bare then arguments.drop 1 else arguments
  let (bytes, stopped) := Escapes.ofArgument.expand ([Ascii.blank].intercalate words)
  if bare || stopped then bytes else bytes ++ [Ascii.newline]

def printFormat (arguments : List Bytes) : Run Nat := do
  match (← options "" "" arguments).operands with
  | [] => fail (said "usage: printf format [arg ...]")
  | format :: arguments => return if ← printFormatted format arguments then 0 else 1

/-- Whether a condition holds; between brackets the closing one begins the last
argument. -/
def check (bracket : Bool) (arguments : List Bytes) : Run Nat := do
  let condition ←
    if !bracket then pure arguments
    else if (arguments.getLast?.bind (·.head?)) = some 0x5D then pure arguments.dropLast
    else fail (said "missing ]")
  return if ← Condition.holds condition then 0 else 1

/-- How a process in the background is doing. -/
def progress (status : Option Ended) : Bytes :=
  match status.map fun (ended : Ended) ↦ ended.val.ending with
  | none | some .unfinished => said "Running"
  | some (.exited 0) => said "Done"
  | some (.exited code) => said "Done(" ++ decimal code ++ said ")"
  | some (.killed signal) => Signal.description signal

/-- The width of the lines that tell of processes in the background. -/
def progressWidth : Nat := 33

/-- Tells of the processes in the background, the latest first, and forgets those that have ended;
`left` holds those that have not. -/
def tellProgress (world : World) (left : List Background) : List Background → Run Unit
  | [] => changeProcess ({ · with children := left })
  | child :: earlier => do
    let status := world.ended.lookup child.id
    let mark := match left with
      | [] => "+"
      | [_] => "-"
      | _ => " "
    let words := said "[" ++ decimal child.number ++ said ("] " ++ mark ++ " ") ++ progress status
    let blanks := List.replicate (progressWidth - words.length) Ascii.blank
    print (words ++ blanks ++ [Ascii.newline])
    tellProgress world (if status.isSome then left else left ++ [child]) earlier

def listBackground (arguments : List Bytes) : Run Nat := do
  let _ ← options "lp" "" arguments
  tellProgress (← world) [] (← process).children
  return 0

/-- No process in the background can be brought to the front. -/
def bringForward (arguments : List Bytes) : Run Nat := do
  let options ← options "" "" arguments
  let _ ← backgroundNamed (options.operands.headD [])
  let name := options.operands.headD (said "(null)")
  fail (said "job " ++ name ++ said " not created under job control")

/-- The times of a shell that has taken none. -/
def printTimes : Run Nat := do
  let line := said "0m0.000000s 0m0.000000s\n"
  print (line ++ line)
  return 0

/-- A command of the shell itself by its name. -/
def byName (name : String) (arguments : List Bytes) : Option (Run Nat) :=
  match name with
  | ":" | "true" => some (pure 0)
  | "false" => some (pure 1)
  | "echo" => some do
    print (echoed arguments)
    return 0
  | "printf" => some (printFormat arguments)
  | "test" => some (check false arguments)
  | "[" => some (check true arguments)
  | "set" => some (set arguments)
  | "export" => some (declare name true false arguments)
  | "readonly" => some (declare name false true arguments)
  | "unset" => some (unset arguments)
  | "local" => some (ownVariables arguments)
  | "shift" => some (shift arguments)
  | "getopts" => some (nextOption arguments)
  | "read" => some (read arguments)
  | "cd" | "chdir" => some (changeDirectory arguments)
  | "pwd" => some (printDirectory arguments)
  | "umask" => some (fileMask arguments)
  | "ulimit" => some (limit arguments)
  | "type" => some (tellTypes arguments)
  | "hash" => some (lookUpPrograms arguments)
  | "alias" => some (setAliases arguments)
  | "unalias" => some (dropAliases arguments)
  | "kill" => some (kill arguments)
  | "trap" => some (arrangeSignals arguments)
  | "jobs" => some (listBackground arguments)
  | "fg" | "bg" => some (bringForward arguments)
  | "times" => some printTimes
  | _ => none

end ContainerLaunch.Rehearsal.Shell.Builtin
