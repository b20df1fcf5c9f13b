import ContainerLaunch.Rehearsal.Shell.Grammar

/-! # Reading scripts

A reader holds what is left of a script. Readings take bytes from it, or tell what is wrong with the
script.
-/

namespace ContainerLaunch.Rehearsal.Shell

/-- What is wrong with a script. -/
inductive Mistake where
  | unexpected (found : Token) (expected : Option Token)
  | unterminatedQuote
  | endWithinBackquotes
  | missingBrace
  | missingParentheses
  | badLoopVariable
  | badFunctionName
  | badDescriptor

def Mistake.message : Mistake → String
  | .unexpected found none => found.name ++ " unexpected"
  | .unexpected found (some token) =>
    found.name ++ " unexpected (expecting " ++ token.name ++ ")"
  | .unterminatedQuote => "Unterminated quoted string"
  | .endWithinBackquotes => "EOF in backquote substitution"
  | .missingBrace => "Missing '\x7d'"
  | .missingParentheses => "Missing '))'"
  | .badLoopVariable => "Bad for loop variable"
  | .badFunctionName => "Bad function name"
  | .badDescriptor => "Bad fd number"

structure Flaw where
  line : Nat
  mistake : Mistake

/-- A document that has been announced and not been read. -/
structure Announcement where
  number : Nat
  /-- The line that ends the document. -/
  last : Bytes
  strips : Bool
  /-- Nothing in the document stands for anything else. -/
  quoted : Bool

/-- An alias whose text is being read. -/
structure Unfolding where
  name : Bytes
  /-- How much will be left of the script when the text has been read. -/
  behind : Nat
  /-- The next word may be an alias as well. -/
  goesOn : Bool

structure Reader where
  rest : Bytes
  /-- The length of the whole script. -/
  length : Nat
  line : Nat := 1
  /-- The last token is to be read once more. -/
  again : Bool := false
  last : Token := .newline
  announced : List Announcement := []
  documents : List Document := []
  documentNumber : Nat := 0
  aliases : List (Bytes × Bytes) := []
  unfolding : List Unfolding := []
  /-- The word is the last line of a document, in which nothing stands for anything else. -/
  literal : Bool := false
  /-- A document is being read, in which quotes only count within braces. -/
  inDocument : Bool := false
  /-- The lines are shown when they are read, if that has been asked for. -/
  shows : Bool := false

/-- The reader of a script at its start. -/
def Reader.ofScript (script : Bytes) : Reader := { rest := script, length := script.length }

abbrev Reading := StateT Reader (Except Flaw)

namespace Reading

def fail {α : Type} (mistake : Mistake) : Reading α := fun reader ↦ .error ⟨reader.line, mistake⟩

/-- Fails at the end of the script within quotes. -/
def failQuoted {α : Type} : Reading α := do
  fail (if (← get).inDocument then .missingBrace else .unterminatedQuote)

/-- Goes on with steps until one of them gives a result. Every step but the last takes a byte, so
that there are no more of them than `fuel`. -/
def repeatedly {σ α : Type} (step : σ → Reading (σ ⊕ α)) : Nat → σ → Reading α
  | 0, _ => fail (.unexpected .endOfInput none)
  | fuel + 1, state => do
    match ← step state with
    | .inl next => repeatedly step fuel next
    | .inr result => return result

/-- A number of steps that is enough for the script and for the texts of aliases. -/
def fuel : Reading Nat := do
  let reader ← get
  let unfolded := (reader.aliases.map fun (_, text) ↦ text.length + 1).foldl (· + ·) 1
  return (reader.length + 2) * unfolded + unfolded

def steps {σ α : Type} (state : σ) (step : σ → Reading (σ ⊕ α)) : Reading α := do
  repeatedly step (← fuel) state

/-- The next byte. -/
def take : Reading (Option UInt8) := fun reader ↦
  match reader.rest with
  | [] => .ok (none, reader)
  | b :: rest => .ok (some b, { reader with rest := rest })

def dropJoins : Bytes → Bytes × Nat
  | first :: second :: rest =>
    if first = Ascii.backslash ∧ second = Ascii.newline then
      let (bytes, lines) := dropJoins rest
      (bytes, lines + 1)
    else (first :: second :: rest, 0)
  | rest => (rest, 0)

/-- Leaves out ends of lines that have a backslash before them. -/
def join : Reading Unit := modify fun reader ↦
  let (rest, lines) := dropJoins reader.rest
  { reader with rest := rest, line := reader.line + lines }

/-- The next byte when lines are joined. -/
def takeJoined : Reading (Option UInt8) := do
  join
  take

/-- The next byte when lines are joined, which is not taken. -/
def peekJoined : Reading (Option UInt8) := do
  join
  return (← get).rest.head?

def putBack (b : UInt8) : Reading Unit := modify fun reader ↦
  { reader with rest := b :: reader.rest }

def countLine : Reading Unit := modify fun reader ↦ { reader with line := reader.line + 1 }

/-- The byte after an opening one if it is the given one; otherwise nothing is taken. -/
def takeIf (wanted : Char) : Reading Bool := do
  if (← peekJoined) = some (.ofNat wanted.toNat) then
    let _ ← take
    return true
  else return false

/-- The bytes in front that all satisfy a test when lines are joined. -/
def takeWhile (test : UInt8 → Bool) : Reading Bytes := do
  let taken ← steps [] fun (taken : Bytes) ↦ do
    match ← peekJoined with
    | some b => if test b then let _ ← take; return .inl (b :: taken) else return .inr taken
    | none => return .inr taken
  return taken.reverse

/-- Does a reading within another script, and comes back. -/
def within {α : Type} (script : Bytes) (reading : Reading α) : Reading α := do
  let outer ← get
  set { outer with rest := script, line := 1, announced := [], unfolding := [] }
  let result ← reading
  modify fun reader ↦
    { outer with documents := reader.documents, documentNumber := reader.documentNumber }
  return result

end Reading

end ContainerLaunch.Rehearsal.Shell
