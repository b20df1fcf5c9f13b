import ContainerLaunch.Rehearsal.Search.Matching
import ContainerLaunch.Rehearsal.Search.Options

/-! # Selected lines

Which lines of an operand are selected, and what is printed of them.
-/

namespace ContainerLaunch.Rehearsal.Search

/-- Whether a string found between two places counts. -/
def counts (search : Search) (line : Expression.Line) (first last : Nat) : Bool :=
  if search.wholeLines then first == 0 && last == line.bytes.size
  else !search.words || (!line.isWordBefore first && !line.isWordAt last)

/-- Where the strings end that count and begin at a place. -/
def endsAt (search : Search) (expressions : List Expression) (line : Expression.Line)
    (first : Nat) : List Nat :=
  expressions.flatMap fun expression ↦
    (expression.endsFrom line first).filter (search.counts line first)

def isFound (search : Search) (expressions : List Expression) (line : Expression.Line) : Bool :=
  (List.range (line.bytes.size + 1)).any fun first ↦
    !(search.endsAt expressions line first).isEmpty

/-- The strings that are found one after another, the longest at each place, and where they begin.
`fuel` bounds the places. -/
def findings (search : Search) (expressions : List Expression) (line : Expression.Line) :
    (fuel first : Nat) → List (Nat × Bytes)
  | 0, _ => []
  | fuel + 1, first =>
    let last := (search.endsAt expressions line first).foldl max first
    if last > first then
      (first, (line.bytes.extract first last).toList) ::
        search.findings expressions line fuel last
    else search.findings expressions line fuel (first + 1)

/-- A line with its number and the number of bytes before it. -/
structure Numbered where
  line : Bytes
  number : Nat
  offset : Nat
  selected : Bool

def subject (search : Search) (line : Bytes) : Expression.Line := ⟨line.toArray, search.folds⟩

def numberLines (search : Search) (expressions : List Expression) (lines : List Bytes) :
    List Numbered :=
  let (numbered, _, _) := lines.foldl (fun (numbered, number, offset) line ↦
    let selected := search.isFound expressions (search.subject line) != search.inverted
    (⟨line, number, offset, selected⟩ :: numbered, number + 1, offset + line.length + 1))
    (([] : List Numbered), 1, 0)
  numbered.reverse

/-- The lines up to the last that may be selected, and the rest. `taken` have been selected. -/
def splitAtLimit (search : Search) : (taken : Nat) → List Numbered → List Numbered × List Numbered
  | _, [] => ([], [])
  | taken, line :: later =>
    if search.most.any (· ≤ taken) then ([], line :: later)
    else
      let (chosen, rest) :=
        search.splitAtLimit (if line.selected then taken + 1 else taken) later
      (line :: chosen, rest)

def isNear (distance : Nat) (lines : List Numbered) : Bool :=
  (lines.take distance).any Numbered.selected

/-- The selected lines and those around them. `passed` are the lines before, the latest first. -/
def withContext (search : Search) : (passed : List Numbered) → List Numbered → List Numbered
  | _, [] => []
  | passed, line :: later =>
    let others := search.withContext ((line :: passed).take search.after) later
    if line.selected || isNear search.after passed || isNear search.before later then line :: others
    else others

def decimal (n : Nat) : Bytes := Utf8.encode (Text.decimal n)

/-- The name of an operand and what comes after it. -/
def nameBefore (search : Search) (mark : UInt8) (name : Option Bytes) : Bytes :=
  match name with
  | some name => name ++ [if search.zeroAfterName then Ascii.zero else mark]
  | none => []

/-- What stands before a line or a string, each part followed by a mark. -/
def heading (search : Search) (name : Option Bytes) (mark : UInt8) (number offset : Nat) : Bytes :=
  search.nameBefore mark name ++
    (if search.numbered then decimal number ++ [mark] else []) ++
    (if search.offsets then decimal offset ++ [mark] else [])

def lineEnd (search : Search) : UInt8 := if search.zeroLines then Ascii.zero else Ascii.newline

def printLine (search : Search) (name : Option Bytes) (line : Numbered) : Bytes :=
  let mark := if line.selected then Ascii.colon else Ascii.hyphen
  search.heading name mark line.number line.offset ++ line.line ++ [search.lineEnd]

/-- Lines with a separator where some are left out; `gap` tells whether some are before the first
one. -/
def printLines (search : Search) (name : Option Bytes) : (gap : Bool) → List Numbered → Bytes
  | _, [] => []
  | gap, line :: later =>
    let separated := gap && (search.before > 0 || search.after > 0)
    let separator := if separated then search.separator.map (· ++ [Ascii.newline]) else none
    separator.getD [] ++ search.printLine name line ++
      search.printLines name (later.head?.any (·.number ≠ line.number + 1)) later

def printFindings (search : Search) (expressions : List Expression) (name : Option Bytes)
    (line : Numbered) : Bytes :=
  if search.inverted || !line.selected then []
  else
    let found := search.findings expressions (search.subject line.line) (line.line.length + 1) 0
    found.flatMap fun (first, string) ↦
      search.heading name Ascii.colon line.number (line.offset + first) ++ string ++
        [search.lineEnd]

/-- What is printed of an operand that is searched as text. `begun` tells whether lines of other
operands have been printed. -/
def print (search : Search) (expressions : List Expression) (operand : Bytes) (named begun : Bool)
    (lines rest : List Numbered) : Bytes :=
  let selected := lines.filter Numbered.selected
  let name := if named then some operand else none
  match search.output with
  | .count =>
    search.nameBefore Ascii.colon name ++ decimal selected.length ++ [Ascii.newline]
  | .name wanted =>
    if selected.isEmpty = wanted then [] else search.nameBefore Ascii.newline (some operand)
  | .lines =>
    let trailing := (rest.takeWhile (!·.selected)).take search.after
    search.printLines name begun
      (search.withContext [] (lines ++ if selected.isEmpty then [] else trailing))
  | .findings => lines.flatMap (search.printFindings expressions name)

end ContainerLaunch.Rehearsal.Search
