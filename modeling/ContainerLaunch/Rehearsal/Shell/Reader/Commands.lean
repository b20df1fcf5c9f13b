import ContainerLaunch.Rehearsal.Shell.Reader.Words

/-! # Reading commands

Tokens make simple commands, these make pipelines, and these make lists. A list that is not within
another command ends with its line.
-/

namespace ContainerLaunch.Rehearsal.Shell

/-- The commands that cannot be defined anew. -/
def specialCommands : List String :=
  ["break", "continue", ".", "eval", "exec", "exit", "export", "readonly", "return", "set",
    "shift", "times", "trap", ":", "unset"]

/-- What is made of a word while tokens are read. -/
structure Wish where
  /-- Newlines are passed over. -/
  newlines : Bool := false
  keywords : Bool := false
  aliases : Bool := false

/-- The start of a command. -/
def Wish.command : Wish := ⟨false, true, true⟩

/-- The start of a command on a line of its own. -/
def Wish.line : Wish := ⟨true, true, true⟩

namespace Reading

/-- The readings that the reading of tokens and commands depends on. -/
structure Deeper where
  word : Quoting → Bool → Reading Draft
  /-- A list of commands; it may be empty if the first argument holds. -/
  list : Bool → Reading (Option Command)

def skipComment : Reading Unit := modify fun reader ↦
  { reader with rest := reader.rest.dropWhile (· ≠ Ascii.newline) }

def skipBlanks : Reading Unit := do
  steps () fun () ↦ do
    match ← peekJoined with
    | some b =>
      if b = Ascii.blank || b = Ascii.tab then
        let _ ← take
        return .inl ()
      else if b = 0x23 then
        skipComment
        return .inl ()
      else return .inr ()
    | none => return .inr ()

/-- The redirection that an angle bracket begins. -/
def redirection (descriptor : Option Nat) (bracket : UInt8) : Reading Token := do
  let token (fallback : Nat) (redirecting : Redirecting) : Token :=
    .redirection (descriptor.getD fallback) redirecting
  if bracket = 0x3E then
    if ← takeIf '>' then return token 1 (.file .append)
    else if ← takeIf '|' then return token 1 (.file .overwrite)
    else if ← takeIf '&' then return token 1 .copy
    else return token 1 (.file .write)
  else if ← takeIf '<' then return token 0 (.document (← takeIf '-'))
  else if ← takeIf '&' then return token 0 .copy
  else if ← takeIf '>' then return token 0 (.file .readAndWrite)
  else return token 0 (.file .read)

/-- A word, or a redirection if there is an angle bracket after nothing or a single digit. -/
def wordOrRedirection (deeper : Deeper) : Reading Token := do
  let draft ← deeper.word .bare false
  let word := draft.word
  let token := Token.word word draft.quotes
  match (← get).rest with
  | [] => return token
  | b :: _ =>
    if !(b = 0x3C || b = 0x3E) || draft.quotes then return token
    else match word with
      | [] => let _ ← take; redirection none b
      | [.text false [digit]] =>
        if Ascii.isDigit digit then
          let _ ← take
          redirection (some (digit.toNat - 0x30)) b
        else return token
      | _ => return token

/-- The next token, whatever a word in its place means. -/
def rawToken (deeper : Deeper) : Reading Token := do
  skipBlanks
  match ← peekJoined with
  | none => return .endOfInput
  | some b =>
    let double (second : Char) (both one : Token) : Reading Token := do
      let _ ← take
      if ← takeIf second then return both else return one
    match Char.ofNat b.toNat with
    | '\n' =>
      let _ ← take
      countLine
      return .newline
    | '&' => double '&' .and .ampersand
    | '|' => double '|' .or .pipe
    | ';' => double ';' .endOfCase .semicolon
    | '(' => let _ ← take; return .leftParenthesis
    | ')' => let _ ← take; return .rightParenthesis
    | _ => wordOrRedirection deeper

/-- Does a reading within a document. -/
def withinDocument {α : Type} (reading : Reading α) : Reading α := do
  modify ({ · with inDocument := true })
  let result ← reading
  modify ({ · with inDocument := false })
  return result

/-- Reads the documents that have been announced. -/
def readDocuments (deeper : Deeper) : Reading Unit := do
  let announced := (← get).announced
  modify ({ · with announced := [] })
  for announcement in announced do
    let text ←
      if announcement.quoted then literalDocument announcement.last announcement.strips
      else withinDocument do
        pure (← deeper.word (.document announcement.last announcement.strips) false).word
    modify fun reader ↦
      { reader with documents := ⟨announcement.number, text⟩ :: reader.documents }

/-- The last token again, or else the next one. -/
def nextToken (deeper : Deeper) : Reading Token := do
  let reader ← get
  if reader.again then
    set { reader with again := false }
    return reader.last
  else
    let token ← rawToken deeper
    modify ({ · with last := token })
    return token

/-- Forgets the aliases whose texts have been read, and tells whether the next word may be an alias
because of them. -/
def leaveAliases : Reading Bool := do
  let reader ← get
  let (left, within) := reader.unfolding.partition (reader.rest.length ≤ ·.behind)
  set { reader with unfolding := within }
  return left.any (·.goesOn)

/-- Puts the text of an alias in the place of its name. -/
def unfoldAlias (name text : Bytes) : Reading Unit := modify fun reader ↦
  let last := text.getLast?
  let goesOn := last = some Ascii.blank || last = some Ascii.tab
  { reader with
    rest := text ++ reader.rest
    unfolding := ⟨name, reader.rest.length, goesOn⟩ :: reader.unfolding }

/-- The alias a word is, unless its text is just being read. -/
def alias? (name : Bytes) : Reading (Option Bytes) := do
  let reader ← get
  if reader.unfolding.any fun unfolding ↦
      unfolding.name = name && unfolding.behind ≤ reader.rest.length then
    return none
  else return reader.aliases.lookup name

/-- The next token, newlines, keywords and aliases taken as is wished. -/
def token (deeper : Deeper) (wish : Wish) : Reading Token := do
  steps wish fun wish ↦ do
    let again := (← get).again
    let token ← nextToken deeper
    match token with
    | .newline =>
      if wish.newlines then
        readDocuments deeper
        return .inl wish
      else return .inr token
    | _ =>
      match token.plain? with
      | none => return .inr token
      | some text =>
        let name? := if wish.keywords then keyword? text else none
        let replacement? ← alias? text
        let goesOn := !again && (← leaveAliases)
        match name?, replacement? with
        | some name, _ =>
          modify ({ · with last := .keyword name })
          return .inr (.keyword name)
        | none, some unfolded =>
          if wish.aliases || goesOn then
            unfoldAlias text unfolded
            return .inl { wish with newlines := false }
          else return .inr token
        | none, none => return .inr token

/-- The last token is to be read once more. -/
def again : Reading Unit := modify ({ · with again := true })

def unexpected {α : Type} (expected : Option Token) : Reading α := do
  fail (.unexpected (← get).last expected)

def expect (deeper : Deeper) (wish : Wish) (wanted : Token) : Reading Unit := do
  if !(← token deeper wish).isSame wanted then unexpected (some wanted)

/-- The copy of a descriptor that a word asks for. -/
def copyOf (descriptor : Nat) (word : Word) : Redirection :=
  match word with
  | [.text _ [b]] =>
    if b = Ascii.hyphen then .copy descriptor none
    else if Ascii.isDigit b then .copy descriptor (some (b.toNat - 0x30))
    else .copyNamed descriptor word
  | _ => .copyNamed descriptor word

/-- The bytes of a word in which nothing stands for anything else. -/
def literalText (word : Word) : Bytes :=
  word.flatMap fun piece ↦ match piece with
    | .text _ bytes => bytes
    | _ => []

/-- The word after a redirection. -/
def redirectionOf (deeper : Deeper) (descriptor : Nat) (redirecting : Redirecting) :
    Reading Redirection := do
  match redirecting with
  | .document _ => modify ({ · with literal := true })
  | _ => pure ()
  let token ← token deeper {}
  modify ({ · with literal := false })
  match token with
  | .word word quoted =>
    match redirecting with
    | .file access => return .file descriptor access word
    | .copy => return copyOf descriptor word
    | .document strips =>
      let reader ← get
      let number := reader.documentNumber
      let announcement : Announcement := ⟨number, literalText word, strips, quoted⟩
      set { reader with
        documentNumber := number + 1, announced := reader.announced ++ [announcement] }
      return .document descriptor number
  | _ => unexpected none

/-- The redirections after a command. -/
def redirections (deeper : Deeper) : Reading (List Redirection) := do
  let found ← steps [] fun (found : List Redirection) ↦ do
    match ← token deeper Wish.command with
    | .redirection descriptor redirecting =>
      return .inl ((← redirectionOf deeper descriptor redirecting) :: found)
    | _ =>
      again
      return .inr found
  return found.reverse

/-- The parts of a simple command, the latest first. -/
structure Simple where
  assignments : List Word := []
  words : List Word := []
  redirections : List Redirection := []

def isAssignment : Word → Bool
  | .text false bytes :: _ =>
    let name := nameAtFront bytes
    !name.isEmpty && bytes[name.length]? = some Ascii.equalsSign
  | _ => false

/-- The name of the function that a command defines if a parenthesis comes after its first word. -/
def functionName (simple : Simple) : Option Word :=
  match simple with
  | ⟨[], [word], []⟩ => some word
  | _ => none

/-- The rest of a definition, after its first parenthesis. -/
def definition (deeper : Deeper) (command : Reading Command) (word : Word) : Reading Command := do
  expect deeper {} .rightParenthesis
  match word with
  | [.text false name] =>
    if !isName name || specialCommands.any (Utf8.ofString · = name) then fail .badFunctionName
    else
      let _ ← token deeper Wish.line
      again
      return .define name (← command)
  | _ => fail .badFunctionName

def simple (deeper : Deeper) (command : Reading Command) : Reading Command := do
  let line := (← get).line
  steps {} fun (simple : Simple) ↦ do
    match ← token deeper { aliases := simple.words.isEmpty } with
    | .word word _ =>
      if simple.words.isEmpty && isAssignment word then
        return .inl { simple with assignments := word :: simple.assignments }
      else return .inl { simple with words := word :: simple.words }
    | .redirection descriptor redirecting =>
      let redirection ← redirectionOf deeper descriptor redirecting
      return .inl { simple with redirections := redirection :: simple.redirections }
    | found =>
      match found, functionName simple with
      | .leftParenthesis, some word => return .inr (← definition deeper command word)
      | _, _ =>
        again
        return .inr (.simple line simple.assignments.reverse simple.words.reverse
          simple.redirections.reverse)

/-- The rest of a choice, after its first keyword. -/
def choice (deeper : Deeper) : Nat → Reading Command
  | 0 => unexpected none
  | fuel + 1 => do
    let test ← deeper.list false
    expect deeper {} (.keyword "then")
    let yes ← deeper.list false
    match ← token deeper {} with
    | .keyword "elif" => return .choice test yes (some (← choice deeper fuel))
    | .keyword "else" => return .choice test yes (← deeper.list false)
    | _ =>
      again
      return .choice test yes none

def loop (deeper : Deeper) (inverted : Bool) : Reading Command := do
  let test ← deeper.list false
  expect deeper {} (.keyword "do")
  return .loop inverted test (← deeper.list false)

/-- The words that a loop goes through. -/
def loopWords (deeper : Deeper) : Reading (List Word) := do
  let words ← steps [] fun (words : List Word) ↦ do
    match ← token deeper {} with
    | .word word _ => return .inl (word :: words)
    | .newline | .semicolon => return .inr words
    | _ => unexpected none
  return words.reverse

/-- The word that stands for all parameters. -/
def allParameters : Word := [.parameter true [0x40] .value]

def each (deeper : Deeper) (line : Nat) : Reading Command := do
  let first ← token deeper {}
  match first.plain? with
  | none => fail .badLoopVariable
  | some name =>
    if !isName name then fail .badLoopVariable
    else
      let words ← match ← token deeper Wish.line with
        | .keyword "in" => loopWords deeper
        | .semicolon => pure [allParameters]
        | _ =>
          again
          pure [allParameters]
      expect deeper Wish.line (.keyword "do")
      return .each line name words (← deeper.list false)

/-- What a token is as a pattern. -/
def patternOf : Token → Word
  | .word word _ => word
  | .keyword name => [.text false (Utf8.ofString name)]
  | _ => []

/-- The patterns of a case, of which the first has been read. -/
def patterns (deeper : Deeper) : Reading (List Word) := do
  let found ← steps [patternOf (← get).last] fun (found : List Word) ↦ do
    match ← token deeper {} with
    | .pipe => return .inl (patternOf (← token deeper {}) :: found)
    | .rightParenthesis => return .inr found
    | _ => unexpected (some .rightParenthesis)
  return found.reverse

/-- The rest of a selection, after its first keyword. -/
def select (deeper : Deeper) (line : Nat) : Reading Command := do
  match ← token deeper {} with
  | .word word _ =>
    expect deeper Wish.line (.keyword "in")
    let start : Wish := ⟨true, true, false⟩
    let first ← token deeper start
    let cases ← steps (first, []) fun
        ((found, cases) : Token × List (List Word × Option Command)) ↦ do
      match found with
      | .keyword "esac" => return .inr cases
      | _ =>
        match found with
        | .leftParenthesis => let _ ← token deeper {}
        | _ => pure ()
        let words ← patterns deeper
        let body ← deeper.list true
        let next := (words, body) :: cases
        match ← token deeper start with
        | .keyword "esac" => return .inr next
        | .endOfCase => return .inl (← token deeper start, next)
        | _ => unexpected (some .endOfCase)
    return .select line word cases.reverse
  | _ => unexpected (some (.word [] false))

/-- A command that is made of others, with the redirections after it. -/
def redirected (deeper : Deeper) (line : Nat) (command : Command) : Reading Command := do
  match command, ← redirections deeper with
  | command, [] => return command
  | .subshell line body _, redirections => return .subshell line body redirections
  | command, redirections => return .redirected line (some command) redirections

/-- A command within a pipeline. -/
def command (deeper : Deeper) : Nat → Reading Command
  | 0 => unexpected none
  | fuel + 1 => do
    let line := (← get).line
    let found ← token deeper Wish.command
    let closedBy (last : String) (command : Command) : Reading Command := do
      expect deeper {} (.keyword last)
      redirected deeper line command
    match found with
    | .keyword "if" => closedBy "fi" (← choice deeper (← Reading.fuel))
    | .keyword "while" => closedBy "done" (← loop deeper false)
    | .keyword "until" => closedBy "done" (← loop deeper true)
    | .keyword "for" => closedBy "done" (← each deeper line)
    | .keyword "case" => redirected deeper line (← select deeper line)
    | .leftParenthesis =>
      let body ← deeper.list false
      expect deeper {} .rightParenthesis
      redirected deeper line (.subshell line body [])
    | .keyword "\x7b" =>
      let body ← deeper.list false
      expect deeper {} (.keyword "\x7d")
      match body, ← redirections deeper with
      | some command, [] => return command
      | body, redirections => return .redirected line body redirections
    | .word _ _ | .redirection _ _ =>
      again
      simple deeper (command deeper fuel)
    | _ => unexpected none

end Reading

end ContainerLaunch.Rehearsal.Shell
