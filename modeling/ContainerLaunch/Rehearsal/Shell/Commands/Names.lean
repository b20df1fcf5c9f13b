import ContainerLaunch.Rehearsal.Shell.Commands.Options
import ContainerLaunch.Rehearsal.Shell.Reader.Lists
import ContainerLaunch.Rehearsal.Shell.Redirections

/-! # Commands about names

What the name of a command stands for, and the shell's own commands that tell it or change it.
-/

namespace ContainerLaunch.Rehearsal.Shell

/-- The commands of the shell itself that are not special. -/
def ordinaryCommands : List String :=
  ["[", "alias", "bg", "cd", "chdir", "command", "echo", "false", "fg", "getopts", "hash", "jobs",
    "kill", "printf", "pwd", "read", "test", "true", "type", "ulimit", "umask", "unalias", "wait"]

/-- What the name of a command stands for. -/
inductive Meaning where
  | function (function : Function)
  /-- A command of the shell itself. -/
  | own (name : String) (special : Bool)
  | tool (tool : Tool) (path : Bytes)
  /-- A file that is looked at when it is started. -/
  | path
  | nothing (cause : SystemError)

namespace Run

/-- The directories in which programs are looked for. -/
def searchPath : Run (List Bytes) := do
  match ← value? (said "PATH") with
  | some list => return (splitAtEvery Ascii.colon list).map fun directory ↦
      if directory.isEmpty then Path.here else directory
  | none => return [said "/nonexistent"]

/-- The first path in some directories where a tool is. -/
def toolPath (name : Bytes) (directories : List Bytes) : Run Bytes := do
  let state ← get
  let path (directory : Bytes) : Bytes := directory ++ Ascii.slash :: name
  let found := directories.find? fun directory ↦
    match state.world.tree.resolve state.process.working (path directory) with
    | .ok (.tool _) => true
    | _ => false
  return path (found.getD [])

/-- The special commands, and one that belongs to them though it may be defined anew. -/
def ownCommand? (name : Bytes) : Option (String × Bool) :=
  match ("local" :: specialCommands).find? (said · = name) with
  | some own => some (own, true)
  | none => (ordinaryCommands.find? (said · = name)).map (·, false)

/-- What a name stands for when it is looked for in some directories. -/
def meaningIn (directories : List Bytes) (functions : Bool) (name : Bytes) : Run Meaning := do
  let state ← get
  let function? := state.process.functions.find? (·.name = name)
  match if functions then function? else none, ownCommand? name with
  | some function, _ => return .function function
  | none, some (own, special) => return .own own special
  | none, none =>
    if name.contains Ascii.slash then return .path
    else
      let tree := state.world.tree
      match tree.search state.process.working name false directories with
      | .ok tool => return .tool tool (← toolPath name directories)
      | .error cause => return .nothing cause

def meaning (functions : Bool) (name : Bytes) : Run Meaning := do
  meaningIn (← searchPath) functions name

/-- What is said of a program that cannot be started. -/
def startReason (cause : SystemError) : Bytes :=
  if cause = .missing ∨ cause = .notDirectory then said "not found" else reason cause

def aliasLine (name text : Bytes) : Bytes :=
  name ++ Ascii.equalsSign :: inQuotes text ++ [Ascii.newline]

/-- Tells what a name stands for, with words or so that it can be used as a command. -/
def describe (verbose : Bool) (name : Bytes) : Run Nat := do
  let tell (words plain : Bytes) : Run Nat := do
    print ((if verbose then name ++ words else plain) ++ [Ascii.newline])
    return 0
  match keyword? name, (← process).aliases.lookup name with
  | some _, _ => tell (said " is a shell keyword") name
  | none, some text =>
    tell (said " is an alias for " ++ text) (said "alias " ++ (aliasLine name text).dropLast)
  | none, none =>
    let isHere (path : Bytes) : Run Bool := do
      let state ← get
      return (state.world.tree.toolAt state.process.working path).toOption.isSome
    let unknown : Run Nat := do
      if verbose then print (name ++ said ": not found\n")
      return 127
    match ← meaning true name with
    | .function _ => tell (said " is a shell function") name
    | .own _ special =>
      tell (said (if special then " is a special shell builtin" else " is a shell builtin")) name
    | .tool _ path => tell (said " is " ++ path) path
    | .path => if ← isHere name then tell (said " is " ++ name) name else unknown
    | .nothing _ => unknown

end Run

namespace Builtin

open Run

/-- Carries out something for every argument; one that fails fails all. -/
def forEach (arguments : List Bytes) (act : Bytes → Run Nat) : Run Nat :=
  arguments.foldlM (fun status argument ↦ return status ||| (← act argument)) 0

def tellTypes (arguments : List Bytes) : Run Nat := forEach arguments (describe true)

/-- Looks programs up, as if they were to be started. -/
def lookUpPrograms (arguments : List Bytes) : Run Nat := do
  let options ← options "rv" "" arguments
  forEach options.operands fun name ↦ do
    match ← meaning true name with
    | .nothing cause =>
      complain (name ++ said ": " ++ startReason cause)
      return 1
    | _ => return 0

def setAliases (arguments : List Bytes) : Run Nat := do
  if arguments.isEmpty then
    for (name, text) in (← process).aliases do print (aliasLine name text)
    return 0
  else forEach arguments fun argument ↦ do
    let equals := (argument.drop 1).findIdx? (· = Ascii.equalsSign)
    match equals, (← process).aliases.lookup argument with
    | some index, _ =>
      let name := argument.take (index + 1)
      let text := argument.drop (index + 2)
      changeProcess fun process ↦
        { process with aliases := (name, text) :: process.aliases.filter (·.1 ≠ name) }
      return 0
    | none, some text =>
      print (aliasLine argument text)
      return 0
    | none, none =>
      let _ ← write 2 (said "alias: " ++ argument ++ said " not found\n")
      return 1

def dropAliases (arguments : List Bytes) : Run Nat := do
  let options ← options "a" "" arguments
  if options.has 'a' then
    changeProcess ({ · with aliases := [] })
    return 0
  else forEach options.operands fun name ↦ do
    if ((← process).aliases.lookup name).isNone then
      let _ ← write 2 (said "unalias: " ++ name ++ said " not found\n")
      return 1
    else
      changeProcess fun process ↦
        { process with aliases := process.aliases.filter (·.1 ≠ name) }
      return 0

end Builtin

end ContainerLaunch.Rehearsal.Shell
