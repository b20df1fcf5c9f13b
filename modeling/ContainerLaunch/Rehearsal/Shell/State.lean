import ContainerLaunch.Rehearsal.Operands
import ContainerLaunch.Rehearsal.Shell.Numbers
import ContainerLaunch.Rehearsal.Shell.World
import ContainerLaunch.Text.Utf8

/-! # What a shell does to its state

Speaking, failing, variables and options.
-/

namespace ContainerLaunch.Rehearsal.Shell

/-- The bytes of words in a message. -/
def said (words : String) : Bytes := Utf8.ofString words

def decimal (n : Nat) : Bytes := Utf8.encode (Text.decimal n)

namespace Run

def process : Run Process := return (← get).process

def world : Run World := return (← get).world

def changeProcess (change : Process → Process) : Run Unit :=
  modify fun state ↦ { state with process := change state.process }

def changeWorld (change : World → World) : Run Unit :=
  modify fun state ↦ { state with world := change state.world }

def setStatus (status : Nat) : Run Unit := changeProcess ({ · with status := status })

/-- Writes to a stream and tells whether that went well. -/
def writeTo (handle : Option Handle) (bytes : Bytes) : Run (Except SystemError Unit) := do
  let state ← get
  match handle with
  | some ⟨stream, _, true⟩ =>
    match state.world.write stream bytes with
    | .ok world =>
      set { state with world := world }
      return .ok ()
    | .error cause => return .error cause
  | _ => return .error .badDescriptor

def write (descriptor : Nat) (bytes : Bytes) : Run (Except SystemError Unit) := do
  writeTo ((← process).handles.lookup descriptor) bytes

/-- Prints something when the command that is being carried out has come to its end. -/
def print (bytes : Bytes) : Run Unit :=
  changeProcess fun process ↦ { process with printed := bytes :: process.printed }

/-- Says something on standard error after the name of the script and the line. -/
def complain (words : Bytes) : Run Unit := do
  let process ← process
  let command := match process.command with
    | some name => name ++ said ": "
    | none => []
  let whole := process.name ++ said ": " ++ decimal process.line ++ said ": " ++ command ++ words
  let _ ← write 2 (whole ++ [Ascii.newline])

/-- Ends the command, and as a rule the shell, with an error. -/
def fail {α : Type} (words : Bytes) : Run α := do
  setStatus 2
  complain words
  throw .error

def badNumber {α : Type} (bytes : Bytes) : Run α := fail (said "Illegal number: " ++ bytes)

/-- The number an argument makes. -/
def countOf (argument : Bytes) : Run Nat := do
  match Numbers.count? argument with
  | some n => return n
  | none => badNumber argument

def hasOption (letter : Char) : Run Bool :=
  return (← process).options.contains (.ofNat letter.toNat)

/-! ## Variables -/

def binding? (name : Bytes) : Run (Option Variable) :=
  return (← process).bindings.find? (·.name = name)

def value? (name : Bytes) : Run (Option Bytes) :=
  return (← binding? name).bind (·.value)

def value (name : String) : Run Bytes := return (← value? (said name)).getD []

/-- Puts a variable in the place of the one with the same name. -/
def putVariable (new : Variable) : Run Unit := changeProcess fun process ↦
  if process.bindings.any (·.name = new.name) then
    { process with bindings := process.bindings.map fun old ↦
        if old.name = new.name then new else old }
  else { process with bindings := process.bindings ++ [new] }

def dropVariable (name : Bytes) : Run Unit := changeProcess fun process ↦
  { process with bindings := process.bindings.filter (·.name ≠ name) }

/-- Sets the number of the parameter at which the reading of options goes on. -/
def setOptionIndex (value : Bytes) : Run Unit := do
  let index := max 1 (← countOf value)
  changeProcess ({ · with optionIndex := index, optionPlace := none })

/-- Sets a variable, which keeps its properties and may get more of them. -/
def assignWith (name : Bytes) (value : Option Bytes) (exported isReadOnly : Bool) : Run Unit := do
  let old ← binding? name
  if value.isSome && old.any (·.isReadOnly) then fail (name ++ said ": is read only")
  else
    if name = said "OPTIND" then value.forM setOptionIndex
    let exports ← hasOption 'a'
    let before := old.getD { name := name }
    putVariable { before with
      value := value.or before.value
      exported := before.exported || exported || (exports && value.isSome)
      isReadOnly := before.isReadOnly || isReadOnly }

def assign (name value : Bytes) : Run Unit := assignWith name (some value) false false

def checkName (name : Bytes) : Run Unit := do
  if !isName name then fail (name ++ said ": bad variable name")

/-- Sets a variable whose name has been chosen by the script. -/
def assignChecked (name value : Bytes) : Run Unit := do
  checkName name
  assign name value

/-- Variables that keep their properties when they are unset. -/
def lasting : List Bytes :=
  ["HISTSIZE", "IFS", "MAIL", "MAILPATH", "PATH", "PS1", "PS2", "PS4", "TERM"].map said

def unset (name : Bytes) : Run Unit := do
  match ← binding? name with
  | none => return ()
  | some found =>
    if found.isReadOnly then fail (name ++ said ": is read only")
    else if name = said "OPTIND" then setOptionIndex []
    else if lasting.contains name then putVariable { found with value := none }
    else dropVariable name

/-- Gives the innermost function a variable of its own, which has the same value at first. -/
def saveVariable (name : Bytes) : Run Unit := do
  let before ← binding? name
  changeProcess fun process ↦
    match process.saved with
    | scope :: outer =>
      if scope.any (·.name = name) then process
      else { process with saved := (⟨name, before⟩ :: scope) :: outer }
    | [] => process

def enterScope : Run Unit := changeProcess fun process ↦
  { process with saved := [] :: process.saved }

/-- Restores the variables that were saved last. -/
def leaveScope : Run Unit := do
  match (← process).saved with
  | [] => return ()
  | scope :: outer =>
    changeProcess ({ · with saved := outer })
    for saved in scope do
      match saved.before with
      | some old => putVariable old
      | none => dropVariable saved.name

/-- The name before the first equals sign of an assignment, and the value after it. -/
def splitAssignment (assignment : Bytes) : Bytes × Option Bytes :=
  let name := assignment.takeWhile (· ≠ Ascii.equalsSign)
  if name.length < assignment.length then (name, some (assignment.drop (name.length + 1)))
  else (name, none)

/-- Text that a shell reads back as one word: single quotes stand between double quotes, and all
else between single quotes. -/
def inQuotes (bytes : Bytes) : Bytes :=
  (bytes.splitBy fun one other ↦ (one = Ascii.quote) = (other = Ascii.quote)).foldl
    (fun written run ↦
      if run.head? = some Ascii.quote then
        let empty := if written.isEmpty then said "''" else []
        written ++ empty ++ [Ascii.doubleQuote] ++ run ++ [Ascii.doubleQuote]
      else written ++ [Ascii.quote] ++ run ++ [Ascii.quote])
    (if bytes.isEmpty then said "''" else [])

end Run

end ContainerLaunch.Rehearsal.Shell
