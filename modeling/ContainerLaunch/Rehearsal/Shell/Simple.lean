import ContainerLaunch.Rehearsal.Shell.Evaluation

/-! # Simple commands

The first word of a simple command tells what it means, and how the words after it are expanded.
Then come its redirections and its assignments, and at last what it stands for is carried out.
-/

namespace ContainerLaunch.Rehearsal.Shell

namespace Evaluator

open Run

/-! ## What a command begins with -/

/-- The words of a command, of which those in front have been expanded. -/
structure Front where
  fields : List Bytes
  /-- So many of the fields stand before the name of the command. -/
  passed : Nat
  words : List Word

namespace Front

/-- Expands words until there is a field after those that have been passed over. -/
def expand (output : Option Command → Run Bytes) (fields : List Bytes) (passed : Nat) :
    List Word → Run Front
  | [] => return ⟨fields, passed, []⟩
  | word :: later => do
    if passed < fields.length then return ⟨fields, passed, word :: later⟩
    else expand output (fields ++ (← expandArgument output word)) passed later

def name? (front : Front) : Option Bytes := front.fields[front.passed]?

/-- Passes over one more field. -/
def pass (output : Option Command → Run Bytes) (front : Front) : Run Front :=
  expand output front.fields (front.passed + 1) front.words

/-- Passes over the options before the name of another command, and tells whether that one is
looked for in the usual directories. If no other command is to be carried out, nothing is told. -/
def passOptions (output : Option Command → Run Bytes) :
    Nat → Bool → Front → Run (Front × Option Bool)
  | 0, _, front => return (front, none)
  | fuel + 1, usual, front => do
    match front.name? with
    | none => return (front, none)
    | some field =>
      if field = said "--" then
        let front ← front.pass output
        return (front, if front.name?.isSome then some usual else none)
      else if field.head? ≠ some Ascii.hyphen || field.length = 1 then return (front, some usual)
      else if (field.drop 1).all (· = 0x70) then passOptions output fuel true (← front.pass output)
      else return (front, none)

end Front

/-- What is known of a command from what it begins with. -/
structure Outset where
  front : Front
  meaning : Option Meaning := none
  /-- The command is one of the shell itself whose errors end the shell. -/
  special : Bool := false
  /-- Functions may be meant. -/
  functions : Bool := true
  /-- Programs are looked for in the usual directories. -/
  usual : Bool := false

namespace Outset

/-- Finds out what is meant by the name of a command. A command that carries out another one, for
which functions are never meant, is passed over. -/
def find (output : Option Command → Run Bytes) : Nat → Outset → Run Outset
  | 0, outset => return outset
  | fuel + 1, outset => do
    match outset.front.name? with
    | none => return outset
    | some name =>
      let meaning ← Run.meaning outset.functions name
      let found := { outset with meaning := some meaning }
      match meaning with
      | .own own special =>
        let found := { found with special := special && outset.functions }
        if own ≠ "command" then return found
        else
          let next ← outset.front.pass output
          match ← next.passOptions output fuel outset.usual with
          | (front, none) =>
            return { found with front := { front with passed := outset.front.passed } }
          | (front, some usual) => find output fuel { front, functions := false, usual }
      | _ => return found

/-- The commands whose arguments are expanded as assignments if they look like some. -/
def assigning : List String := ["alias", "export", "local", "readonly"]

def assigns (outset : Outset) : Bool :=
  match outset.meaning with
  | some (.own name _) => assigning.contains name
  | _ => false

/-- The redirections of the command go on after it. -/
def keepsRedirections (outset : Outset) : Bool :=
  match outset.meaning with
  | some (.own name _) => name = "exec"
  | _ => false

/-- All fields of the command. -/
def fields (output : Option Command → Run Bytes) (outset : Outset) : Run (List Bytes) := do
  let later ← outset.front.words.mapM fun word ↦ do
    if outset.assigns && Reading.isAssignment word then
      return [← expandWhole output .inAssignment word]
    else expandArgument output word
  return outset.front.fields ++ later.flatten

end Outset

/-! ## The trace -/

/-- What a text stands for if it stands between quotes. -/
def expandText (output : Option Command → Run Bytes) (text : Bytes) : Run Bytes := do
  let reading : Reading Draft := do
    let fuel ← Reading.fuel
    pieces (Reading.list fuel true) fuel (.document [Ascii.zero] false) false
  match reading.run (.ofScript text) with
  | .ok (draft, _) => expandWhole output .nowhere draft.word
  | .error flaw => fail (said ("Syntax error: " ++ flaw.mistake.message))

/-- Shows the fields of a command if that has been asked for. -/
def trace (evaluator : Evaluator) (errors : Option Handle) (fields : List Bytes) : Run Unit := do
  if ← hasOption 'x' then
    let options := (← process).options
    changeProcess ({ · with options := options.filter (· ≠ 0x78) })
    let before ← expandText evaluator.output (← value "PS4")
    changeProcess ({ · with options := options })
    let _ ← writeTo errors (before ++ [Ascii.blank].intercalate fields ++ [Ascii.newline])

/-! ## Carrying out -/

/-- Makes an assignment and tells its text. -/
def assignWord (output : Option Command → Run Bytes) (temporary exported : Bool) (word : Word) :
    Run Bytes := do
  let text ← expandWhole output .inAssignment word
  let (name, value) := splitAssignment text
  if temporary then saveVariable name
  assignWith name value (temporary || exported) false
  return text

/-- Carries out a command whose fields are known. -/
def start (evaluator : Evaluator) (duty : Duty) (outset : Outset) (fields : List Bytes) :
    Run Flow := do
  match outset.meaning, fields with
  | some (.own name _), _ :: arguments => evaluator.runOwn duty outset.special name arguments
  | some _, name :: arguments =>
    let begin (tool : Tool) : Run Flow := do
      evaluator.startTool duty tool name arguments
      return .next
    let refuse (code : Nat) (cause : SystemError) : Run Flow := do
      complain (name ++ said ": " ++ startReason cause)
      setStatus code
      return .next
    let directories ← if outset.usual then pure FileTree.searchPath else searchPath
    match ← meaningIn directories outset.functions name with
    | .function function => evaluator.call duty function arguments
    | .own own _ => evaluator.runOwn duty outset.special own arguments
    | .tool tool _ => begin tool
    | .nothing cause => refuse 127 cause
    | .path =>
      match ← toolAt name with
      | .ok tool => begin tool
      | .error cause => refuse (startCode cause) cause
  | _, _ =>
    setStatus (← process).substituted
    return .next

def simple (evaluator : Evaluator) (duty : Duty) (line : Nat) (assignments words : List Word)
    (redirections : List Redirection) : Run Flow := do
  changeProcess ({ · with line := line, substituted := 0 })
  let output := evaluator.output
  let outset ← Outset.find output deepest { front := ← Front.expand output [] 0 words }
  let fields ← outset.fields output
  let own := fields.drop outset.front.passed
  let settled ← redirections.mapM (settle output)
  let errors := (← process).handles.lookup 2
  let temporary := !own.isEmpty && !outset.special
  let exported := outset.keepsRedirections && own.length > 1
  let act : Run Flow := do
    let texts ← assignments.mapM (assignWord output temporary exported)
    evaluator.trace errors (texts ++ fields)
    evaluator.start duty outset own
  let whole : Run Flow := do
    if temporary then
      enterScope
      always leaveScope act
    else act
  let failed : Run Flow := if outset.special then throw .error else return .next
  if outset.keepsRedirections then
    if ← survives (settled.forM (redirect output)) then whole else failed
  else
    match ← evaluator.redirected settled whole with
    | some flow => return flow
    | none => failed

end Evaluator

end ContainerLaunch.Rehearsal.Shell
