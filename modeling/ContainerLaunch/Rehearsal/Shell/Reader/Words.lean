import ContainerLaunch.Rehearsal.Shell.Reader

/-! # Reading words

A word ends before a blank or an operator. Quotes and braces keep such bytes within it, and a dollar
sign or a backquote begins a piece that stands for something else.
-/

namespace ContainerLaunch.Rehearsal.Shell

/-- Where a piece of a word stands. -/
inductive Quoting where
  | bare
  | doubleQuotes
  | document (last : Bytes) (strips : Bool)
  | arithmetic

def Quoting.isQuoted : Quoting → Bool
  | .bare => false
  | _ => true

/-- A word of which a part has been read. -/
structure Draft where
  /-- The pieces before the last text, the latest first. -/
  pieces : List Piece := []
  /-- The last text, the latest byte first. -/
  bytes : Bytes := []
  /-- Whether the last text is quoted. -/
  quoted : Bool := false
  /-- Whether anything in the word has been quoted. -/
  quotes : Bool := false
  /-- How many parentheses are open. -/
  depth : Nat := 0
  /-- Quotes are open within braces within quotes. -/
  isInner : Bool := false
  atLineStart : Bool := false

namespace Draft

/-- Ends the last text. -/
def settle (draft : Draft) : Draft :=
  if draft.bytes.isEmpty then draft
  else
    let text := Piece.text draft.quoted draft.bytes.reverse
    { draft with pieces := text :: draft.pieces, bytes := [] }

def add (draft : Draft) (quoted : Bool) (b : UInt8) : Draft :=
  if draft.quoted = quoted then { draft with bytes := b :: draft.bytes }
  else { draft.settle with bytes := [b], quoted := quoted }

def addPiece (draft : Draft) (piece : Piece) : Draft :=
  let settled := draft.settle
  { settled with pieces := piece :: settled.pieces }

/-- Notes that there are quotes, so that the word is there even if nothing stands between them. -/
def mark (draft : Draft) : Draft := { draft.addPiece (.text true []) with quotes := true }

def word (draft : Draft) : Word := draft.settle.pieces.reverse

/-- Adds what stands between double quotes. All parameters in a row, with nothing beside them, may
be no word at all, and are not marked. -/
def addQuoted (draft : Draft) (between : Word) : Draft :=
  match between with
  | [.parameter true [0x40] .value] =>
    { between.foldl addPiece draft with quotes := true }
  | _ => (between.foldl addPiece draft.mark)

end Draft

/-- The readings that the reading of a word depends on. -/
structure Parts where
  /-- The pieces up to the end of a quoting. Within braces, they end at the closing one. -/
  pieces : Quoting → Bool → Reading Draft
  /-- Commands, up to something that ends a list of them and is the last token. -/
  commands : Reading (Option Command)

def endsWord (b : UInt8) : Bool := (Utf8.ofString "\t\n &()|;<>").contains b

/-- The names of parameters that are set by the shell. -/
def isSpecial (b : UInt8) : Bool := (Utf8.ofString "!#$*-?@").contains b || Ascii.isDigit b

def rightBrace : UInt8 := 0x7D

namespace Parts

open Reading

/-- A name, a number or a single byte. -/
def parameterName : Reading Bytes := do
  match ← peekJoined with
  | some b =>
    if Ascii.isDigit b then takeWhile Ascii.isDigit
    else if Ascii.isWordByte b then takeWhile Ascii.isWordByte
    else if b = rightBrace then return []
    else
      let _ ← take
      return [b]
  | none => return []

/-- The word within braces, which ends with the closing one. -/
def bracedWord (parts : Parts) (quoting : Quoting) : Reading Word := do
  let inner := match quoting with
    | .arithmetic => .doubleQuotes
    | quoting => quoting
  return (← parts.pieces inner true).word

def misuse (parts : Parts) (quoting : Quoting) : Reading Use := do
  let _ ← parts.bracedWord quoting
  return .misused

/-- The word that may take the place of a value, after the byte that tells when. -/
def otherwise (parts : Parts) (quoting : Quoting) (nulls : Bool) : Reading Use := do
  let word (what : Otherwise) : Reading Use :=
    return .otherwise what nulls (← parts.bracedWord quoting)
  match (← take).map fun b ↦ Char.ofNat b.toNat with
  | some '-' => word .use
  | some '=' => word .assign
  | some '?' => word .complain
  | some '+' => word .replace
  | some '}' => if nulls then parts.misuse quoting else return .value
  | _ => parts.misuse quoting

/-- What follows the name of a parameter within braces. -/
def use (parts : Parts) (quoting : Quoting) : Reading Use := do
  if ← takeIf ':' then
    let _ ← peekJoined
    parts.otherwise quoting true
  else if ← takeIf '#' then
    let trim := if ← takeIf '#' then Trim.longestHead else .shortestHead
    return .trimmed trim (← parts.bracedWord .bare)
  else if ← takeIf '%' then
    let trim := if ← takeIf '%' then Trim.longestTail else .shortestTail
    return .trimmed trim (← parts.bracedWord .bare)
  else parts.otherwise quoting false

/-- Whether a number sign after the opening brace asks for a length: it does unless it is the name
of the parameter itself. -/
def asksLength : Reading Bool := do
  match (← get).rest with
  | [] => return false
  | b :: later =>
    if b = rightBrace then return false
    else if Ascii.isWordByte b then return true
    else return later.head? = some rightBrace

/-- A parameter within braces. -/
def braced (parts : Parts) (quoting : Quoting) : Reading Piece := do
  let piece (name : Bytes) (use : Use) : Piece := .parameter quoting.isQuoted name use
  let isSign ← takeIf '#'
  join
  if isSign && (← asksLength) then
    let name ← parameterName
    let isName := Ascii.isWordByte (name.headD 0) || name.all isSpecial
    if ← takeIf '}' then return piece name (if isName then .length else .misused)
    else return piece name (← parts.misuse quoting)
  else
    let name ← if isSign then pure (Utf8.ofString "#") else parameterName
    if name.isEmpty || !(Ascii.isWordByte (name.headD 0) || name.all isSpecial) then
      return piece name (← parts.misuse quoting)
    else return piece name (← parts.use quoting)

/-- Commands within parentheses. -/
def parenthesized (parts : Parts) : Reading (Option Command) := do
  let outer ← get
  set { outer with again := false, announced := [], literal := false, inDocument := false }
  let commands ← parts.commands
  match (← get).last with
  | .rightParenthesis =>
    modify fun reader ↦
      { reader with
        again := false, announced := outer.announced, inDocument := outer.inDocument }
    return commands
  | found => fail (.unexpected found (some .rightParenthesis))

/-- What a dollar sign begins, or nothing if it stands for itself. -/
def afterDollar (parts : Parts) (quoting : Quoting) : Reading (Option Piece) := do
  if (← get).literal then return none
  match ← peekJoined with
  | none => return none
  | some b =>
    if b = 0x28 then
      let _ ← take
      if ← takeIf '(' then
        return some (.arithmetic quoting.isQuoted (← parts.pieces .arithmetic false).word)
      else return some (.output quoting.isQuoted (← parts.parenthesized))
    else if b = 0x7B then
      let _ ← take
      return some (← parts.braced quoting)
    else if Ascii.isDigit b || isSpecial b then
      let _ ← take
      return some (.parameter quoting.isQuoted [b] .value)
    else if Ascii.isWordByte b then
      return some (.parameter quoting.isQuoted (← takeWhile Ascii.isWordByte) .value)
    else return none

/-- The script between backquotes. A backslash before a backslash, a backquote or a dollar sign, and
within quotes before a double quote, is left out. -/
def backquoted (quoting : Quoting) : Reading Bytes := do
  let taken ← steps [] fun (taken : Bytes) ↦ do
    match ← takeJoined with
    | none => fail .endWithinBackquotes
    | some b =>
      if b = Ascii.backquote then return .inr taken
      else if b = Ascii.backslash then
        match ← take with
        | none => fail .endWithinBackquotes
        | some c =>
          if c = Ascii.newline then countLine
          let isEscape := c = Ascii.backslash || c = Ascii.backquote || c = Ascii.dollar ||
            (quoting.isQuoted && c = Ascii.doubleQuote)
          return .inl (if isEscape then c :: taken else c :: b :: taken)
      else
        if b = Ascii.newline then countLine
        return .inl (b :: taken)
  return taken.reverse

/-- What stands between backquotes, which is read as a script of its own. -/
def afterBackquote (parts : Parts) (quoting : Quoting) : Reading Piece := do
  let script ← backquoted quoting
  let reading : Reading (Option Command) := do
    modify ({ · with again := false, literal := false, inDocument := false })
    parts.commands
  return .output quoting.isQuoted (← within script reading)

/-- The text up to the next single quote. -/
def singleQuoted : Reading Bytes := do
  let taken ← steps [] fun (taken : Bytes) ↦ do
    match ← take with
    | none => failQuoted
    | some b =>
      if b = Ascii.newline then countLine
      if b = Ascii.quote then return .inr taken else return .inl (b :: taken)
  return taken.reverse

/-- Goes on with a byte that means the same in every quoting. -/
def common (parts : Parts) (quoting : Quoting) (draft : Draft) (b : UInt8) : Reading Draft := do
  if b = Ascii.dollar then
    match ← parts.afterDollar quoting with
    | some piece => return draft.addPiece piece
    | none => return draft.add quoting.isQuoted b
  else if b = Ascii.backquote then
    if (← get).literal then return { draft.add quoting.isQuoted b with quotes := true }
    else return draft.addPiece (← parts.afterBackquote quoting)
  else
    if b = Ascii.newline then countLine
    return draft.add quoting.isQuoted b

/-- A step outside quotes. -/
def stepBare (parts : Parts) (braces : Bool) (draft : Draft) : Reading (Draft ⊕ Draft) := do
  match ← takeJoined with
  | none => if braces then fail .missingBrace else return .inr draft
  | some b =>
    if b = Ascii.backslash then
      return .inl { draft.add true ((← take).getD b) with quotes := true }
    else if b = Ascii.quote then
      return .inl ((← singleQuoted).foldl (·.add true ·) draft.mark)
    else if b = Ascii.doubleQuote then
      return .inl (draft.addQuoted (← parts.pieces .doubleQuotes false).word)
    else if braces && b = rightBrace then return .inr draft
    else if !braces && endsWord b then
      putBack b
      return .inr draft
    else return .inl (← parts.common .bare draft b)

/-- A byte after a backslash within quotes of some kind. Only some bytes lose the backslash. -/
def afterBackslash (quoting : Quoting) (braces : Bool) (draft : Draft) : Reading Draft := do
  let keepsQuote := match quoting with
    | .document _ _ => !braces
    | _ => false
  match ← take with
  | none => return draft.add true Ascii.backslash
  | some b =>
    if b = Ascii.newline then countLine
    let isEscape := b = Ascii.backslash || b = Ascii.backquote || b = Ascii.dollar ||
      (b = Ascii.doubleQuote && !keepsQuote) || (b = rightBrace && braces && !draft.isInner)
    let kept := if isEscape then draft else draft.add true Ascii.backslash
    return { kept.add true b with quotes := true }

/-- A step within quotes or braces within quotes. -/
def stepQuoted (parts : Parts) (quoting : Quoting) (braces : Bool) (draft : Draft) :
    Reading (Draft ⊕ Draft) := do
  match ← takeJoined with
  | none =>
    match quoting with
    | .document _ _ => if braces then fail .missingBrace else return .inr draft
    | _ => failQuoted
  | some b =>
    if b = Ascii.backslash then return .inl (← afterBackslash quoting braces draft)
    else if b = Ascii.doubleQuote then
      match quoting, braces with
      | _, true => return .inl { draft.mark with isInner := !draft.isInner }
      | .document _ _, false => return .inl (draft.add true b)
      | _, false => return .inr { draft with quotes := true }
    else if b = rightBrace && braces && !draft.isInner then return .inr draft
    else
      let next ← parts.common quoting draft b
      return .inl { next with atLineStart := b = Ascii.newline }

/-- A step within an arithmetic expression, which two closing parentheses end. -/
def stepArithmetic (parts : Parts) (draft : Draft) : Reading (Draft ⊕ Draft) := do
  match ← takeJoined with
  | none => fail .missingParentheses
  | some b =>
    if b = Ascii.backslash then return .inl (← afterBackslash .arithmetic false draft)
    else if b = 0x28 then return .inl { draft.add true b with depth := draft.depth + 1 }
    else if b = 0x29 then
      if draft.depth > 0 then return .inl { draft.add true b with depth := draft.depth - 1 }
      else if ← takeIf ')' then return .inr draft
      else return .inl (draft.add true b)
    else return .inl (← parts.common .arithmetic draft b)

/-- Whether the last line of a document comes next. It is taken then, and tabs before it are taken
in any case if they are to be left out. -/
def takesLastLine (last : Bytes) (strips : Bool) : Reading Bool := do
  let reader ← get
  let line := if strips then reader.rest.dropWhile (· = Ascii.tab) else reader.rest
  let rest := line.drop last.length
  if last.isPrefixOf line && (rest.isEmpty || rest.head? = some Ascii.newline) then
    set { reader with rest := rest.drop 1, line := reader.line + 1 }
    return true
  else
    set { reader with rest := line }
    return false

def stepDocument (parts : Parts) (last : Bytes) (strips braces : Bool) (draft : Draft) :
    Reading (Draft ⊕ Draft) := do
  if draft.atLineStart then join
  if draft.atLineStart && (← takesLastLine last strips) then
    if braces then fail .missingBrace else return .inr draft
  else parts.stepQuoted (.document last strips) braces { draft with atLineStart := false }

def step (parts : Parts) (braces : Bool) : Quoting → Draft → Reading (Draft ⊕ Draft)
  | .bare => parts.stepBare braces
  | .doubleQuotes => parts.stepQuoted .doubleQuotes braces
  | .document last strips => parts.stepDocument last strips braces
  | .arithmetic => parts.stepArithmetic

end Parts

/-- The pieces of a word up to the end of a quoting. A number bounds how deep quotings go. -/
def pieces (commands : Reading (Option Command)) : Nat → Quoting → Bool → Reading Draft
  | 0, _, _ => Reading.fail .unterminatedQuote
  | depth + 1, quoting, braces =>
    let parts : Parts := ⟨pieces commands depth, commands⟩
    let start : Draft := match quoting with
      | .document _ _ => { atLineStart := !braces, quoted := true }
      | quoting => { quoted := quoting.isQuoted }
    Reading.steps start (parts.step braces quoting)

/-- The text of a document in which nothing stands for anything else. -/
def literalDocument (last : Bytes) (strips : Bool) : Reading Word := do
  let taken ← Reading.steps ([], true) fun ((taken, atLineStart) : Bytes × Bool) ↦ do
    if atLineStart && (← Parts.takesLastLine last strips) then return .inr taken
    else match ← Reading.take with
      | none => return .inr taken
      | some b =>
        if b = Ascii.newline then Reading.countLine
        return .inl (b :: taken, b = Ascii.newline)
  return [.text true taken.reverse]

end ContainerLaunch.Rehearsal.Shell
