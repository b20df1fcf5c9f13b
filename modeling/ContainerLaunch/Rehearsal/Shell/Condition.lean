import ContainerLaunch.Rehearsal.Shell.Redirections

/-! # Conditions

The command that tells by its exit code whether something holds of its arguments: of strings, of
numbers or of files.
-/

namespace ContainerLaunch.Rehearsal.Shell

namespace Condition

inductive Operator where
  | unary (letter : Char)
  | binary (name : String)
  | not
  | and
  | or
  | leftParenthesis
  | rightParenthesis
  deriving DecidableEq, Repr

def binaries : List String :=
  ["=", "!=", "<", ">", "-eq", "-ne", "-ge", "-gt", "-le", "-lt", "-nt", "-ot", "-ef"]

def operator? (argument : Bytes) : Option Operator :=
  match argument.map fun b ↦ Char.ofNat b.toNat with
  | ['!'] => some .not
  | ['('] => some .leftParenthesis
  | [')'] => some .rightParenthesis
  | ['-', 'a'] => some .and
  | ['-', 'o'] => some .or
  | _ =>
    match binaries.find? (said · = argument), argument with
    | some name, _ => some (.binary name)
    | none, [0x2D, letter] =>
      if (said "rwxefdcbpugkstznhLOGS").contains letter then
        some (.unary (.ofNat letter.toNat))
      else none
    | none, _ => none

def isBinary (argument : Bytes) : Bool :=
  match operator? argument with
  | some (.binary _) => true
  | _ => false

/-- The operator that the first argument is. A unary operator without an operand is an operand
itself, and so is one before a binary operator. -/
def leading : List Bytes → Option Operator
  | [] => none
  | argument :: later =>
    match operator? argument, later with
    | some (.unary _), [] => none
    | some (.unary letter), [_] => some (.unary letter)
    | some (.unary letter), next :: _ :: _ => if isBinary next then none else some (.unary letter)
    | some .leftParenthesis, [] => none
    | operator, _ => operator

abbrev Test := StateT (List Bytes) Run

def complain {α : Type} (words : Bytes) : Test α := (Run.fail words : Run α)

def integer (argument : Bytes) : Test Int :=
  match Numbers.integer? argument with
  | some n => return n
  | none => (Run.badNumber argument : Run Int)

/-- What is at a path. -/
def node? (path : Bytes) : Run (Option Node) := do
  let state ← get
  return (state.world.tree.resolve state.process.working path).toOption

def isLink (path : Bytes) : Run Bool := do
  let state ← get
  let tree := state.world.tree
  match tree.newPlace state.process.working path with
  | .ok place =>
    match tree.nodeAt place with
    | some (.link _) => return true
    | _ => return false
  | .error _ => return false

def place? (path : Bytes) : Run (Option Place) := do
  let state ← get
  return (state.world.tree.reach state.process.working path).toOption

/-- Whether a file has the property that a letter asks for. -/
def holdsOfFile (letter : Char) (path : Bytes) : Run Bool := do
  let node ← node? path
  match letter, node with
  | 'h', _ | 'L', _ => isLink path
  | 'f', some (.file _) | 'f', some (.tool _) | 'd', some .directory => return true
  | 'c', some (.device _) | 'x', some .directory | 'x', some (.tool _) => return true
  | 's', some (.file content) => return !content.isEmpty
  | 's', some .directory | 's', some (.tool _) => return true
  | 'k', some .directory =>
    return [some (FileTree.place "/tmp"), some (FileTree.place "/var/tmp")].contains
      (← place? path)
  | 'e', some _ | 'r', some _ | 'w', some _ | 'O', some _ | 'G', some _ => return true
  | _, _ => return false

def unary (letter : Char) (operand : Bytes) : Test Bool := do
  match letter with
  | 'z' => return operand.isEmpty
  | 'n' => return !operand.isEmpty
  | 't' =>
    let _ ← integer operand
    return false
  | letter => (holdsOfFile letter operand : Run Bool)

def binary (name : String) (first second : Bytes) : Test Bool := do
  let compare (test : Int → Int → Bool) : Test Bool := do
    let a ← integer first
    let b ← integer second
    return test a b
  match name with
  | "=" => return first = second
  | "!=" => return first ≠ second
  | "<" => return first ≠ second && Run.bytesBefore first second
  | ">" => return first ≠ second && Run.bytesBefore second first
  | "-eq" => compare (· == ·)
  | "-ne" => compare (· != ·)
  | "-ge" => compare (· ≥ ·)
  | "-gt" => compare (· > ·)
  | "-le" => compare (· ≤ ·)
  | "-lt" => compare (· < ·)
  | "-ef" =>
    let one ← (place? first : Run _)
    return one.isSome && one = (← (place? second : Run _))
  | _ => return false

/-- Goes on to the next argument. -/
def advance : Test Unit := modify (·.drop 1)

/-- An operand with what belongs to it; the state is left at its last argument. -/
def primary (whole : Test Bool) : Test Bool := do
  let arguments ← get
  match arguments, leading arguments with
  | [], _ => return false
  | _, some .leftParenthesis =>
    advance
    if leading (← get) = some .rightParenthesis then return false
    else
      let result ← whole
      advance
      if leading (← get) = some .rightParenthesis then return result
      else complain (said "closing paren expected")
  | _ :: later, some (.unary letter) =>
    set later
    unary letter (later.headD [])
  | first :: later, _ =>
    match leading later with
    | some (.binary name) =>
      set (later.drop 1)
      match later.drop 1 with
      | second :: _ => binary name first second
      | [] => complain (said (name ++ ": argument expected"))
    | _ => return !first.isEmpty

def negation (whole : Test Bool) : Nat → Test Bool
  | 0 => return false
  | fuel + 1 => do
    let arguments ← get
    if leading arguments = some .not then
      if arguments.length > 1 then
        advance
        return !(← negation whole fuel)
      else return true
    else primary whole

/-- Operands with an operator between every two, whose results are combined. -/
def sequence (operator : Operator) (combine : Bool → Bool → Bool) (operand : Test Bool) :
    Nat → Bool → Test Bool
  | 0, result => return result
  | fuel + 1, result => do
    let next := combine result (← operand)
    let later := (← get).drop 1
    if leading later = some operator then
      set (later.drop 1)
      sequence operator combine operand fuel next
    else return next

def whole : Nat → Test Bool
  | 0 => return false
  | fuel + 1 =>
    let conjunction := sequence .and (· && ·) (negation (whole fuel) (fuel + 1)) (fuel + 1) true
    sequence .or (· || ·) conjunction (fuel + 1) false

/-- A condition in which nothing may be left over. -/
def complete (arguments : List Bytes) : Run Bool := do
  let (result, left) ← (whole (arguments.length + 1)).run arguments
  match left with
  | first :: _ :: _ => Run.fail (first ++ said ": unexpected operator")
  | _ => return result

/-- Whether the truth of a condition differs from `negated`. What three or four arguments mean
depends on their number; signs of negation in front of them count once. -/
def differs (negated : Bool) : List Bytes → Run Bool
  | [] => return negated
  | first :: later => do
    let last := later.getLastD first
    let complete (arguments : List Bytes) : Run Bool := return (← complete arguments) != negated
    match later.length, (later.head?).bind operator? with
    | 2, some (.binary name) => return (← (binary name first last).run' []) != negated
    | count, _ =>
      if count = 2 || count = 3 then
        match operator? first, operator? last with
        | some .leftParenthesis, some .rightParenthesis => complete later.dropLast
        | some .not, _ => differs true later
        | _, _ => complete (first :: later)
      else complete (first :: later)

def holds (arguments : List Bytes) : Run Bool := differs false arguments

end Condition

end ContainerLaunch.Rehearsal.Shell
