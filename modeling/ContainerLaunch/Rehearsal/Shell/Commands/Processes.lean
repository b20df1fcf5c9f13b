import ContainerLaunch.Rehearsal.Shell.Commands.Options
import ContainerLaunch.Rehearsal.Shell.Signals

/-! # Commands about processes

The shell's own commands that send signals and arrange for what is done when they come.
-/

namespace ContainerLaunch.Rehearsal.Shell.Builtin

open Run

/-- Names of signals are looked up among those after the end of the shell. -/
def leastSent : Nat := 1

def killUsage : Bytes :=
  said "Usage: kill [-s sigspec | -signum | -sigspec] [pid | job]... or\nkill -l [exitstatus]"

/-- What the first arguments ask to be sent, and whether signals are to be listed instead. -/
structure Sending where
  signal : Option Nat
  lists : Bool
  targets : List Bytes

def sending (arguments : List Bytes) : Run Sending := do
  match arguments with
  | [] => fail killUsage
  | first :: later =>
    if first.head? ≠ some Ascii.hyphen then return ⟨none, false, arguments⟩
    else match Signal.ofBytes? leastSent (first.drop 1) with
      | some signal => return ⟨some signal, false, later⟩
      | none =>
        let options ← options "l" "s" arguments
        let named := (options.found.filter (·.1 = 's')).map (·.2)
        let signals ← named.mapM fun name ↦
          match Signal.ofBytes? leastSent name with
          | some signal => return signal
          | none => fail (said "invalid signal number or name: " ++ name)
        return ⟨signals.getLast?, options.has 'l', options.operands⟩

/-- The name of the signal that an exit code tells of. -/
def signalOfCode (code : Bytes) : Run Unit := do
  let number ← countOf code
  let signal := if number > 128 then number - 128 else number
  if 0 < signal && signal ≤ Signal.lastReal then print (Signal.name signal ++ [Ascii.newline])
  else fail (said "invalid signal number or exit status: " ++ code)

def listSignals : Run Unit := do
  print (said "0\n")
  for signal in (List.range Signal.lastReal).map (· + 1) do
    print (Signal.name signal ++ [Ascii.newline])

/-- Sends a signal to the process a word tells. Processes in the background have no groups of their
own that signals could be sent to. -/
def sendTo (signal : Nat) (target : Bytes) : Run Nat := do
  if target.head? = some Background.sign then
    let _ ← backgroundNamed target
    complain (reason .noProcess ++ [Ascii.newline])
    return 1
  else
    let isGroup := target.head? = some Ascii.hyphen
    let number ← countOf (if isGroup then target.drop 1 else target)
    let state ← get
    let id := if number = 0 then state.process.id else number
    if ← send id signal then return 0
    else
      complain (reason .noProcess ++ [Ascii.newline])
      return 1

def kill (arguments : List Bytes) : Run Nat := do
  let sending ← sending arguments
  match sending.lists, sending.signal, sending.targets with
  | true, some _, _ => fail killUsage
  | true, none, [] =>
    listSignals
    return 0
  | true, none, code :: _ =>
    signalOfCode code
    return 0
  | false, _, [] => fail killUsage
  | false, signal, targets =>
    targets.foldlM (fun status target ↦ do
      return status ||| (← sendTo (signal.getD 15) target)) 0

/-- The commands that list what has been arranged. -/
def listReactions : Run Unit := do
  let reactions := (← process).reactions.mergeSort fun one other ↦ one.1 ≤ other.1
  for (signal, reaction) in reactions do
    let commands := match reaction with
      | .ignores => []
      | .runs commands => commands
    print (said "trap -- " ++ inQuotes commands ++ [Ascii.blank] ++ Signal.name signal ++
      [Ascii.newline])

/-- Arranges for signals one by one; one that is none ends the list. -/
def arrange (reaction : Option Reaction) : List Bytes → Run Nat
  | [] => return 0
  | name :: later => do
    match Signal.ofBytes? 0 name with
    | none =>
      let _ ← write 2 (said "trap: " ++ name ++ said ": bad trap\n")
      return 1
    | some signal =>
      changeProcess fun process ↦
        let others := process.reactions.filter (·.1 ≠ signal)
        { process with reactions := (reaction.map ((signal, ·))).toList ++ others }
      arrange reaction later

def arrangeSignals (arguments : List Bytes) : Run Nat := do
  let options ← options "" "" arguments
  match options.operands with
  | [] =>
    listReactions
    return 0
  | [only] => arrange none [only]
  | first :: later =>
    if (Ascii.number? first).any (· ≤ Signal.lastReal) then arrange none (first :: later)
    else if first = [Ascii.hyphen] then arrange none later
    else arrange (some (if first.isEmpty then .ignores else .runs first)) later

/-- Arguments that tell the exit code to leave with, if there are any. -/
def codeOf (arguments : List Bytes) : Run (Option Nat) := do
  match arguments with
  | [] => return none
  | code :: _ => return some (← countOf code)

/-- How many loops the arguments ask to be left, of those that there are. -/
def loopsOf (arguments : List Bytes) : Run Nat := do
  let count ← match arguments with
    | [] => pure 1
    | argument :: _ => do
      let count ← countOf argument
      if count = 0 then badNumber argument else pure count
  return min count (← process).loops

end ContainerLaunch.Rehearsal.Shell.Builtin
