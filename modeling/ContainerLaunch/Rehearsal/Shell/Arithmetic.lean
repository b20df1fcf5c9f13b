import ContainerLaunch.Rehearsal.Shell.State

/-! # Arithmetic

Expressions over whole numbers of 64 bits. An expression is evaluated while it is read; the parts
that do not count are only read.
-/

namespace ContainerLaunch.Rehearsal.Shell

namespace Arithmetic

inductive Lexeme where
  | number (value : Int64)
  | name (name : Bytes)
  | sign (sign : String)
  /-- A byte that begins nothing. -/
  | unknown
  deriving DecidableEq, Repr

/-- Signs by falling length, so that the longest one is found first. -/
def signs : List String :=
  ["<<=", ">>=", "<<", ">>", "<=", ">=", "==", "!=", "&&", "||", "+=", "-=", "*=", "/=", "%=", "&=",
    "^=", "|=", "<", ">", "=", "!", "~", "&", "|", "^", "+", "-", "*", "/", "%", "(", ")", "?", ":"]

/-- The lexeme in front, with what comes after it. -/
def lexeme (bytes : Bytes) : Lexeme × Bytes :=
  match Numbers.natural bytes with
  | some (n, rest) => (.number (.ofNat (min n Numbers.largest)), rest)
  | none =>
    let name := nameAtFront bytes
    if !name.isEmpty then (.name name, bytes.drop name.length)
    else match signs.find? fun sign ↦ (Utf8.ofString sign).isPrefixOf bytes with
      | some sign => (.sign sign, bytes.drop (Utf8.ofString sign).length)
      | none => (.unknown, bytes.drop 1)

def lexemes : Nat → Bytes → List Lexeme
  | fuel + 1, b :: later =>
    if b = Ascii.blank || b = Ascii.tab || b = Ascii.newline then lexemes fuel later
    else
      let (found, rest) := lexeme (b :: later)
      found :: lexemes fuel rest
  | _, _ => []

/-- The expression and what has not been read of it. -/
structure Progress where
  whole : Bytes
  rest : List Lexeme

abbrev Evaluation := StateT Progress Run

def complain {α : Type} (words : String) : Evaluation α := do
  let whole := said "\"" ++ (← get).whole ++ said "\""
  Run.fail (said ("arithmetic expression: " ++ words ++ ": ") ++ whole)

def ofBool (b : Bool) : Int64 := if b then 1 else 0

/-- What an operator makes of two numbers. -/
def combine (operator : String) (a b : Int64) : Evaluation Int64 :=
  match operator with
  | "*" => return a * b
  | "/" => if b = 0 then complain "division by zero" else return a / b
  | "%" => if b = 0 then complain "division by zero" else return a % b
  | "+" => return a + b
  | "-" => return a - b
  | "<<" => return a <<< b
  | ">>" => return a >>> b
  | "<" => return ofBool (a < b)
  | "<=" => return ofBool (a ≤ b)
  | ">" => return ofBool (a > b)
  | ">=" => return ofBool (a ≥ b)
  | "==" => return ofBool (a = b)
  | "!=" => return ofBool (a ≠ b)
  | "&" => return a &&& b
  | "^" => return a ^^^ b
  | _ => return a ||| b

/-- The operators between two numbers, the ones that bind least first. -/
def levels : List (List String) :=
  [["|"], ["^"], ["&"], ["==", "!="], ["<=", ">=", "<", ">"], ["<<", ">>"], ["+", "-"],
    ["*", "/", "%"]]

/-- The signs that change a variable, and what its old value is combined by. -/
def changes : List (String × Option String) :=
  ("=", none) :: ["+", "-", "*", "/", "%", "<<", ">>", "&", "^", "|"].map fun operator ↦
    (operator ++ "=", some operator)

/-- Takes one of some signs if it comes next. -/
def takeSign (signs : List String) : Evaluation (Option String) := do
  let progress ← get
  match progress.rest with
  | .sign sign :: rest =>
    if signs.contains sign then
      set { progress with rest := rest }
      return some sign
    else return none
  | _ => return none

/-- The number a variable holds. -/
def valueOf (name : Bytes) : Evaluation Int64 := do
  let value := (← (Run.value? name : Run _)).getD []
  match Numbers.ofValue? value with
  | some n => return .ofInt n
  | none => (Run.badNumber value : Run _)

/-- A number, a variable or an expression in parentheses, with signs before it. `counts` tells
whether its value matters. -/
def primary (whole : Bool → Evaluation Int64) (counts : Bool) : Nat → Evaluation Int64
  | 0 => complain "expecting primary"
  | fuel + 1 => do
    let progress ← get
    match progress.rest with
    | lexeme :: rest =>
      set { progress with rest := rest }
      match lexeme with
      | .number n => return n
      | .name name => if counts then valueOf name else return 0
      | .sign "(" =>
        let result ← whole counts
        match ← takeSign [")"] with
        | some _ => return result
        | none => complain "expecting ')'"
      | .sign "+" => primary whole counts fuel
      | .sign "-" => return -(← primary whole counts fuel)
      | .sign "!" => return ofBool ((← primary whole counts fuel) = 0)
      | .sign "~" => return ~~~(← primary whole counts fuel)
      | _ => complain "expecting primary"
    | [] => complain "expecting primary"

/-- Goes on with what stands after a first number while there are operators of a level. -/
def goOn (next : Evaluation Int64) (operators : List String) (counts : Bool) :
    Nat → Int64 → Evaluation Int64
  | 0, a => return a
  | fuel + 1, a => do
    match ← takeSign operators with
    | none => return a
    | some operator =>
      let b ← next
      goOn next operators counts fuel (← if counts then combine operator a b else pure b)

/-- Numbers with operators of some levels between them. -/
def binary (whole : Bool → Evaluation Int64) (counts : Bool) (fuel : Nat) :
    List (List String) → Evaluation Int64
  | [] => primary whole counts fuel
  | operators :: tighter => do
    let next := binary whole counts fuel tighter
    goOn next operators counts fuel (← next)

def both (whole : Bool → Evaluation Int64) : Nat → Bool → Evaluation Int64
  | 0, _ => complain "expecting primary"
  | fuel + 1, counts => do
    let a ← binary whole counts (fuel + 1) levels
    match ← takeSign ["&&"] with
    | none => return a
    | some _ =>
      let b ← both whole fuel (counts && a ≠ 0)
      return ofBool (a ≠ 0 && b ≠ 0)

def either (whole : Bool → Evaluation Int64) : Nat → Bool → Evaluation Int64
  | 0, _ => complain "expecting primary"
  | fuel + 1, counts => do
    let a ← both whole (fuel + 1) counts
    match ← takeSign ["||"] with
    | none => return a
    | some _ =>
      let b ← either whole fuel (counts && a = 0)
      return ofBool (a ≠ 0 || b ≠ 0)

def conditional (whole : Bool → Evaluation Int64) : Nat → Bool → Evaluation Int64
  | 0, _ => complain "expecting primary"
  | fuel + 1, counts => do
    let a ← either whole (fuel + 1) counts
    match ← takeSign ["?"] with
    | none => return a
    | some _ =>
      let b ← whole (counts && a ≠ 0)
      match ← takeSign [":"] with
      | none => complain "expecting ':'"
      | some _ =>
        let c ← conditional whole fuel (counts && a = 0)
        return if a ≠ 0 then b else c

/-- The variable and the operator of an assignment in front, which are taken. -/
def takeTarget : Evaluation (Option (Bytes × Option String)) := do
  let progress ← get
  match progress.rest with
  | .name name :: .sign sign :: rest =>
    match changes.lookup sign with
    | some operator =>
      set { progress with rest := rest }
      return some (name, operator)
    | none => return none
  | _ => return none

/-- A whole expression, which may set variables. -/
def assignment : Nat → Bool → Evaluation Int64
  | 0, _ => complain "expecting primary"
  | fuel + 1, counts => do
    match ← takeTarget with
    | none => conditional (assignment fuel) (fuel + 1) counts
    | some (name, operator) =>
      let result ← assignment fuel counts
      if !counts then return result
      else
        let value ← match operator with
          | none => pure result
          | some operator => combine operator (← valueOf name) result
        (Run.assign name (Utf8.encode (Text.integer value.toInt)) : Run _)
        return value

end Arithmetic

/-- The value of an arithmetic expression. -/
def Run.evaluate (expression : Bytes) : Run Int := do
  let lexemes := Arithmetic.lexemes expression.length expression
  let evaluation : Arithmetic.Evaluation Int64 := do
    let result ← Arithmetic.assignment (lexemes.length + 2) true
    if (← get).rest.isEmpty then return result else Arithmetic.complain "expecting EOF"
  return (← evaluation.run' ⟨expression, lexemes⟩).toInt

end ContainerLaunch.Rehearsal.Shell
