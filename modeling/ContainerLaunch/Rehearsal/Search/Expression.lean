import ContainerLaunch.Text.Ascii
import ContainerLaunch.Text.Utf8

/-! # Expressions to search for

An expression describes strings of bytes. There are two ways to write one, the basic and the
extended, which differ in what has a meaning of its own and what gets one by a backslash.
-/

namespace ContainerLaunch.Rehearsal

/-- Bytes by their runs, first and last of each; or all bytes but these. -/
structure ByteSet where
  runs : List (UInt8 × UInt8)
  negated : Bool
  deriving DecidableEq, Repr

namespace ByteSet

def contains (set : ByteSet) (b : UInt8) : Bool :=
  set.runs.any (fun (first, last) ↦ first ≤ b && b ≤ last) != set.negated

/-- The runs of a named class of ASCII bytes. -/
def named? (name : String) : Option (List (UInt8 × UInt8)) :=
  match name with
  | "alpha" => some [(0x41, 0x5A), (0x61, 0x7A)]
  | "upper" => some [(0x41, 0x5A)]
  | "lower" => some [(0x61, 0x7A)]
  | "digit" => some [(0x30, 0x39)]
  | "xdigit" => some [(0x30, 0x39), (0x41, 0x46), (0x61, 0x66)]
  | "alnum" => some [(0x30, 0x39), (0x41, 0x5A), (0x61, 0x7A)]
  | "punct" => some [(0x21, 0x2F), (0x3A, 0x40), (0x5B, 0x60), (0x7B, 0x7E)]
  | "space" => some [(0x09, 0x0D), (0x20, 0x20)]
  | "blank" => some [(0x09, 0x09), (0x20, 0x20)]
  | "print" => some [(0x20, 0x7E)]
  | "graph" => some [(0x21, 0x7E)]
  | "cntrl" => some [(0x00, 0x1F), (0x7F, 0x7F)]
  | _ => none

def ofName? (name : Bytes) : Option (List (UInt8 × UInt8)) :=
  named? (String.ofList (name.map fun b ↦ .ofNat b.toNat))

def wordBytes (negated : Bool) : ByteSet :=
  ⟨[(0x30, 0x39), (0x41, 0x5A), (0x5F, 0x5F), (0x61, 0x7A)], negated⟩

def spaces (negated : Bool) : ByteSet := ⟨[(0x09, 0x0D), (0x20, 0x20)], negated⟩

end ByteSet

/-- A condition on a place between two bytes. -/
inductive Anchor where
  | start
  | finish
  | wordStart
  | wordEnd
  | boundary
  | interior
  deriving DecidableEq, Repr

inductive Expression where
  | empty
  | byte (b : UInt8)
  | any
  | set (set : ByteSet)
  | anchor (anchor : Anchor)
  /-- What is found for it can be referred back to by the number. -/
  | group (number : Nat) (inner : Expression)
  /-- The same again as was found for a group. -/
  | back (number : Nat)
  | sequence (first second : Expression)
  | choice (first second : Expression)
  | repeated (inner : Expression) (least : Nat) (most : Option Nat)

namespace Expression

/-- Exactly these bytes. -/
def ofBytes (bytes : Bytes) : Expression :=
  bytes.foldr (fun b later ↦ .sequence (.byte b) later) .empty

/-- Why bytes are no expression. -/
inductive Fault where
  | openBracket
  | bareBracket
  | unknownClass
  | unknownElement
  | wrongRange
  | bareClass
  | openGroup
  | closedGroup
  | openInterval
  | wrongInterval
  | largeInterval
  | lastBackslash
  | wrongReference
  deriving DecidableEq, Repr

def Fault.message : Fault → String
  | openBracket => "Unmatched [, [^, [:, [., or [="
  | bareBracket => "Invalid regular expression"
  | unknownClass => "Invalid character class name"
  | unknownElement => "Invalid collation character"
  | wrongRange => "Invalid range end"
  | bareClass => "character class syntax is [[:space:]], not [:space:]"
  | openGroup => "Unmatched ( or \\("
  | closedGroup => "Unmatched ) or \\)"
  | openInterval => "Unmatched \\\x7b"
  | wrongInterval => "Invalid content of \\\x7b\\\x7d"
  | largeInterval => "Regular expression too big"
  | lastBackslash => "Trailing backslash"
  | wrongReference => "Invalid back reference"

/-- How an expression is written. -/
inductive Dialect where
  | basic
  | extended
  deriving DecidableEq, Repr

/-- Signs that repeat what comes before them. -/
inductive Repeat where
  | star
  | plus
  | optional
  | interval (least : Nat) (most : Option Nat)

inductive Token where
  | single (expression : Expression)
  | anchor (anchor : Anchor)
  | open
  | close
  | bar
  | repetition (sign : Repeat)
  | reference (number : Nat)
  | finish

/-! ## Bracket expressions -/

/-- An element of a bracket expression: a single byte, which may begin a run, or a class. -/
inductive Element where
  | byte (b : UInt8) (plain : Bool)
  | class (runs : List (UInt8 × UInt8))

/-- What stands before the byte `mark` and a closing bracket, and what comes after. -/
def splitAtMark (mark : UInt8) : Bytes → Option (Bytes × Bytes)
  | [] | [_] => none
  | first :: second :: rest =>
    if first = mark ∧ second = 0x5D then some ([], rest)
    else (splitAtMark mark (second :: rest)).map fun (name, after) ↦ (first :: name, after)

def readElement : Bytes → Except Fault (Element × Bytes)
  | [] => .error .openBracket
  | 0x5B :: mark :: rest =>
    if mark = Ascii.colon ∨ mark = Ascii.equalsSign ∨ mark = Ascii.dot then
      match splitAtMark mark rest with
      | none => .error .openBracket
      | some (name, after) =>
        if mark = Ascii.colon then
          match ByteSet.ofName? name with
          | some runs => .ok (.class runs, after)
          | none => .error .unknownClass
        else
          match name with
          | [b] =>
            if mark = Ascii.equalsSign then .ok (.class [(b, b)], after)
            else .ok (.byte b false, after)
          | _ => .error .unknownElement
    else .ok (.byte 0x5B true, mark :: rest)
  | b :: rest => .ok (.byte b true, rest)

/-- The runs up to the closing bracket, and whether all elements are plain bytes. `fuel` bounds the
number of elements. -/
def readElements : (fuel : Nat) → (first : Bool) → Bytes →
    Except Fault (List (UInt8 × UInt8) × Bool × Bytes)
  | 0, _, _ => .error .openBracket
  | _, _, [] => .error .openBracket
  | fuel + 1, first, b :: rest => do
    if b = 0x5D ∧ !first then return ([], true, rest)
    match ← readElement (b :: rest) with
    | (.class runs, 0x2D :: after) =>
      if after.head? = some 0x5D then
        let (others, _, rest) ← readElements fuel false (0x2D :: after)
        return (runs ++ others, false, rest)
      else .error .wrongRange
    | (.class runs, after) =>
      let (others, _, rest) ← readElements fuel false after
      return (runs ++ others, false, rest)
    | (.byte b plain, 0x2D :: after) =>
      match after with
      | [] => .error .openBracket
      | 0x5D :: _ =>
        let (others, isPlain, rest) ← readElements fuel false (0x2D :: after)
        return ((b, b) :: others, plain && isPlain, rest)
      | _ =>
        match ← readElement after with
        | (.byte last _, after) =>
          if last < b then .error .wrongRange
          else if after.head? = some 0x2D ∧ (after.drop 1).head? ≠ some 0x5D then
            .error .wrongRange
          else
            let (others, _, rest) ← readElements fuel false after
            return ((b, last) :: others, false, rest)
        | (.class _, _) => .error .wrongRange
    | (.byte b plain, after) =>
      let (others, isPlain, rest) ← readElements fuel false after
      return ((b, b) :: others, plain && isPlain, rest)

/-- A set after its opening bracket. A class without the outer brackets is refused. -/
def readSet (bytes : Bytes) : Except Fault (ByteSet × Bytes) := do
  let negated := bytes.head? = some 0x5E
  let inner := if negated then bytes.drop 1 else bytes
  if inner.isEmpty then .error .bareBracket
  else
    let (runs, isPlain, rest) ← readElements (inner.length + 1) true inner
    let colons := runs.map fun (first, _) ↦ first == Ascii.colon
    if isPlain && colons.head? == some true && colons.getLast? == some true &&
        colons.contains false then .error .bareClass
    else return (⟨runs, negated⟩, rest)

/-! ## Tokens -/

/-- The numbers of an interval up to its closing brace, if they are in order. -/
def readInterval (dialect : Dialect) (bytes : Bytes) : Option (Repeat × Bytes) :=
  let low := bytes.takeWhile Ascii.isDigit
  let afterLow := bytes.drop low.length
  let (least, most, rest) : Option Nat × Option Nat × Bytes :=
    match afterLow with
    | 0x2C :: after =>
      let high := after.takeWhile Ascii.isDigit
      (some (Ascii.number low), Ascii.number? high, after.drop high.length)
    | _ => (Ascii.number? low, Ascii.number? low, afterLow)
  let closed :=
    match dialect, rest with
    | .basic, 0x5C :: 0x7D :: after => some after
    | .extended, 0x7D :: after => some after
    | _, _ => none
  match least, closed with
  | some least, some after =>
    if most.all (least ≤ ·) then some (.interval least most, after) else none
  | _, _ => none

/-- Whether the numbers of an interval are there, in whatever order. -/
def isInterval (dialect : Dialect) (bytes : Bytes) : Bool :=
  let rest := bytes.dropWhile fun b ↦ Ascii.isDigit b || b == 0x2C
  match dialect, rest with
  | .basic, 0x5C :: 0x7D :: _ => rest.length < bytes.length
  | .extended, 0x7D :: _ => rest.length < bytes.length && bytes.head? != some 0x7D
  | _, _ => false

/-- The most times that an interval may ask for. -/
def mostRepeats : Nat := 32767

/-- An interval after its opening brace; a brace that opens none stands for itself where the dialect
lets it. -/
def intervalToken (dialect : Dialect) (rest : Bytes) : Except Fault (Token × Bytes) :=
  match readInterval dialect rest with
  | some (.interval least most, after) =>
    if most.getD least > mostRepeats then .error .largeInterval
    else .ok (.repetition (.interval least most), after)
  | some (sign, after) => .ok (.repetition sign, after)
  | none =>
    if isInterval dialect rest then .error .wrongInterval
    else
      match dialect with
      | .extended => .ok (.single (.byte 0x7B), rest)
      | .basic =>
        let after := rest.dropWhile fun b ↦ Ascii.isDigit b || b == 0x2C
        .error (if after.isEmpty || after == [0x5C] then .openInterval else .wrongInterval)

/-- A byte after a backslash whose meaning does not depend on the dialect. -/
def escaped (b : UInt8) (rest : Bytes) : Token × Bytes :=
  match Char.ofNat b.toNat with
  | 'w' => (.single (.set (.wordBytes false)), rest)
  | 'W' => (.single (.set (.wordBytes true)), rest)
  | 's' => (.single (.set (.spaces false)), rest)
  | 'S' => (.single (.set (.spaces true)), rest)
  | 'b' => (.anchor .boundary, rest)
  | 'B' => (.anchor .interior, rest)
  | '<' => (.anchor .wordStart, rest)
  | '>' => (.anchor .wordEnd, rest)
  | '\x60' => (.anchor .start, rest)
  | '\'' => (.anchor .finish, rest)
  | _ =>
    if 0x31 ≤ b && b ≤ 0x39 then (.reference (b.toNat - 0x30), rest)
    else (.single (.byte b), rest)

/-- A byte that is an operator of its dialect, with a backslash or without. -/
def operator (dialect : Dialect) (b : UInt8) (rest : Bytes) :
    Option (Except Fault (Token × Bytes)) :=
  match Char.ofNat b.toNat with
  | '(' => some (.ok (.open, rest))
  | ')' => some (.ok (.close, rest))
  | '|' => some (.ok (.bar, rest))
  | '+' => some (.ok (.repetition .plus, rest))
  | '?' => some (.ok (.repetition .optional, rest))
  | '\x7b' => some (intervalToken dialect rest)
  | _ => none

/-- Whether a dollar sign before these bytes is the end of a line in a basic expression. -/
def endsBasic (rest : Bytes) : Bool :=
  rest.isEmpty || [0x5C, 0x29].isPrefixOf rest || [0x5C, 0x7C].isPrefixOf rest

/-- The next token; `fresh` tells that nothing but anchors comes before it in its branch. -/
def nextToken (dialect : Dialect) (fresh : Bool) : Bytes → Except Fault (Token × Bytes)
  | [] => .ok (.finish, [])
  | 0x5C :: [] => .error .lastBackslash
  | 0x5C :: b :: rest =>
    match dialect with
    | .basic => (operator .basic b rest).getD (.ok (escaped b rest))
    | .extended => .ok (escaped b rest)
  | 0x5B :: rest => do
    let (members, rest) ← readSet rest
    return (.single (.set members), rest)
  | 0x2E :: rest => .ok (.single .any, rest)
  | 0x2A :: rest => .ok (.repetition .star, rest)
  | 0x5E :: rest =>
    if dialect = .extended ∨ fresh then .ok (.anchor .start, rest)
    else .ok (.single (.byte 0x5E), rest)
  | 0x24 :: rest =>
    if dialect = .extended ∨ endsBasic rest then .ok (.anchor .finish, rest)
    else .ok (.single (.byte 0x24), rest)
  | b :: rest =>
    match dialect with
    | .basic => .ok (.single (.byte b), rest)
    | .extended => (operator .extended b rest).getD (.ok (.single (.byte b), rest))

/-! ## The parser -/

namespace Repeat

def of (expression : Expression) : Repeat → Expression
  | star => .repeated expression 0 none
  | plus => .repeated expression 1 none
  | optional => .repeated expression 0 (some 1)
  | interval least most => .repeated expression least most

/-- How a sign is called. -/
def name : Repeat → String
  | star => "*"
  | plus => "+"
  | optional => "?"
  | interval _ _ => "\x7b...\x7d"

/-- The byte of a sign that stands for itself. -/
def byte : Repeat → UInt8
  | star => 0x2A
  | plus => 0x2B
  | optional => 0x3F
  | interval _ _ => 0x7B

end Repeat

/-- An expression that has been read, and what is known after it. -/
structure Parsed where
  expression : Expression
  rest : Bytes
  /-- How many groups have been opened. -/
  opened : Nat
  /-- The groups that have been closed. -/
  closed : List Nat
  /-- Signs that had nothing before them to repeat, the latest first. -/
  stray : List Repeat

namespace Parsed

def start (bytes : Bytes) : Parsed := ⟨.empty, bytes, 0, [], []⟩

/-- The same place with another expression read. -/
def reading (parsed : Parsed) (expression : Expression) (rest : Bytes) : Parsed :=
  { parsed with expression := expression, rest := rest }

/-- Applies all signs of repetition that come next. -/
def repeated (dialect : Dialect) : (fuel : Nat) → Parsed → Parsed
  | 0, parsed => parsed
  | fuel + 1, parsed =>
    match nextToken dialect false parsed.rest with
    | .ok (.repetition sign, rest) =>
      repeated dialect fuel (parsed.reading (sign.of parsed.expression) rest)
    | _ => parsed

end Parsed

mutual

/-- Branches between bars. `depth` counts the groups around, and `fuel` bounds the tokens. -/
def parseChoice (dialect : Dialect) : (fuel depth : Nat) → Parsed → Except Fault Parsed
  | 0, _, parsed => .ok parsed
  | fuel + 1, depth, parsed => do
    let first ← parseBranch dialect fuel depth true { parsed with expression := .empty }
    match ← nextToken dialect false first.rest with
    | (.bar, rest) =>
      let second ← parseChoice dialect fuel depth { first with rest := rest }
      return { second with expression := .choice first.expression second.expression }
    | _ => return first

/-- One item after another. `fresh` tells that there have been only anchors. -/
def parseBranch (dialect : Dialect) : (fuel depth : Nat) → (fresh : Bool) → Parsed →
    Except Fault Parsed
  | 0, _, _, parsed => .ok parsed
  | fuel + 1, depth, fresh, parsed => do
    match ← parseItem dialect fuel depth fresh parsed with
    | none => return parsed
    | some (item, fresh) =>
      parseBranch dialect fuel depth fresh
        { item with expression := .sequence parsed.expression item.expression }

/-- The next item of a branch with its repetitions, or nothing at the end of the branch. -/
def parseItem (dialect : Dialect) : (fuel depth : Nat) → (fresh : Bool) → Parsed →
    Except Fault (Option (Parsed × Bool))
  | 0, _, _, _ => .ok none
  | fuel + 1, depth, fresh, parsed => do
    let single (parsed : Parsed) (expression : Expression) (rest : Bytes) :=
      some ((parsed.reading expression rest).repeated dialect fuel, false)
    if dialect = .basic ∧ fresh ∧ [0x5C, 0x7B].isPrefixOf parsed.rest then
      return single parsed (.byte 0x7B) (parsed.rest.drop 2)
    match ← nextToken dialect fresh parsed.rest with
    | (.finish, _) | (.bar, _) => return none
    | (.single expression, rest) => return single parsed expression rest
    | (.anchor place, rest) => return some (parsed.reading (.anchor place) rest, true)
    | (.reference number, rest) =>
      if parsed.closed.contains number then return single parsed (.back number) rest
      else .error .wrongReference
    | (.repetition sign, rest) =>
      if dialect = .basic then return single parsed (.byte sign.byte) rest
      else return single { parsed with stray := sign :: parsed.stray } .empty rest
    | (.close, rest) =>
      if depth > 0 then return none
      else if dialect = .extended then return single parsed (.byte 0x29) rest
      else .error .closedGroup
    | (.open, rest) =>
      let number := parsed.opened + 1
      let inner ← parseChoice dialect fuel (depth + 1)
        { parsed with rest := rest, opened := number }
      match ← nextToken dialect false inner.rest with
      | (.close, rest) =>
        return single { inner with closed := number :: inner.closed }
          (.group number inner.expression) rest
      | _ => .error .openGroup

end

/-- Reads an expression, and tells of signs in it that have nothing to repeat. -/
def parse (dialect : Dialect) (bytes : Bytes) : Except Fault (Expression × List Repeat) := do
  let parsed ← parseChoice dialect (3 * bytes.length + 3) 0 (.start bytes)
  return (parsed.expression, parsed.stray.reverse)

end Expression

end ContainerLaunch.Rehearsal
