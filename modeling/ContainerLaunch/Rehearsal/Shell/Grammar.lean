import ContainerLaunch.Text.Ascii
import ContainerLaunch.Text.Utf8

/-! # What scripts are made of

Words are made of pieces, some of which stand for what is only known when the word is used. Commands
are made of words, redirections and other commands.
-/

namespace ContainerLaunch.Rehearsal.Shell

/-- When another word takes the place of a parameter's value. -/
inductive Otherwise where
  /-- The word is used while the parameter is unset. -/
  | use
  /-- The same, and the parameter is set to the word. -/
  | assign
  /-- The word is the message of an error while the parameter is unset. -/
  | complain
  /-- The word is used when the parameter is set. -/
  | replace
  deriving DecidableEq, Repr

/-- The part of a value that a pattern takes away. -/
inductive Trim where
  | shortestHead
  | longestHead
  | shortestTail
  | longestTail
  deriving DecidableEq, Repr

/-- How a file is opened. -/
inductive Access where
  | read
  | write
  /-- Writes whether or not files are guarded. -/
  | overwrite
  | append
  | readAndWrite
  deriving DecidableEq, Repr

mutual

inductive Piece where
  | text (quoted : Bool) (bytes : Bytes)
  | parameter (quoted : Bool) (name : Bytes) (use : Use)
  /-- What some commands print. -/
  | output (quoted : Bool) (commands : Option Command)
  | arithmetic (quoted : Bool) (expression : List Piece)

/-- What is made of the value of a parameter. -/
inductive Use where
  | value
  | length
  /-- If `nulls` holds, an empty value counts as unset. -/
  | otherwise (what : Otherwise) (nulls : Bool) (word : List Piece)
  | trimmed (trim : Trim) (pattern : List Piece)
  | misused

inductive Redirection where
  | file (descriptor : Nat) (access : Access) (name : List Piece)
  /-- Makes the descriptor a copy of another one, or closes it if there is none. -/
  | copy (descriptor : Nat) (source : Option Nat)
  /-- A copy of the descriptor that a word tells. -/
  | copyNamed (descriptor : Nat) (name : List Piece)
  /-- The text of a document that stands among the commands. -/
  | document (descriptor : Nat) (number : Nat)

inductive Command where
  | simple (line : Nat) (assignments words : List (List Piece)) (redirections : List Redirection)
  | pipeline (background : Bool) (commands : List Command)
  | sequence (first second : Command)
  | and (first second : Command)
  | or (first second : Command)
  | not (command : Command)
  | redirected (line : Nat) (body : Option Command) (redirections : List Redirection)
  | subshell (line : Nat) (body : Option Command) (redirections : List Redirection)
  | background (body : Command)
  | choice (test yes no : Option Command)
  /-- Goes on while the test succeeds or, if `inverted` holds, until it does. -/
  | loop (inverted : Bool) (test body : Option Command)
  | each (line : Nat) (name : Bytes) (words : List (List Piece)) (body : Option Command)
  | select (line : Nat) (word : List Piece)
      (cases : List (List (List Piece) × Option Command))
  | define (name : Bytes) (body : Command)

end

abbrev Word := List Piece

/-- A document that stands among the commands and ends before a line of its own. -/
structure Document where
  number : Nat
  text : Word

/-- The front of a byte string that can be the name of a variable. -/
def nameAtFront (bytes : Bytes) : Bytes :=
  match bytes with
  | first :: _ => if Ascii.isDigit first then [] else bytes.takeWhile Ascii.isWordByte
  | [] => []

def isName (bytes : Bytes) : Bool := !bytes.isEmpty && nameAtFront bytes == bytes

/-- The words that mean something where a command may begin, and whether a list of commands ends
before them. -/
def keywords : List (String × Bool) :=
  [("!", false), ("\x7b", false), ("\x7d", true), ("case", false), ("do", true), ("done", true),
    ("elif", true), ("else", true), ("esac", true), ("fi", true), ("for", false), ("if", false),
    ("in", false), ("then", true), ("until", false), ("while", false)]

def keyword? (bytes : Bytes) : Option String :=
  keywords.findSome? fun (name, _) ↦ if Utf8.ofString name = bytes then some name else none

/-- What a redirection does, before its word is known. -/
inductive Redirecting where
  | file (access : Access)
  | copy
  /-- A document. If `strips` holds, tabs at the front of its lines are left out. -/
  | document (strips : Bool)
  deriving DecidableEq, Repr

/-- What commands are read as. -/
inductive Token where
  | endOfInput
  | newline
  | semicolon
  | ampersand
  | and
  | or
  | pipe
  | leftParenthesis
  | rightParenthesis
  | endOfCase
  | redirection (descriptor : Nat) (redirecting : Redirecting)
  | word (word : Word) (quoted : Bool)
  | keyword (name : String)

namespace Token

def inQuotes (words : String) : String := "\"" ++ words ++ "\""

/-- How messages name a token. -/
def name : Token → String
  | .endOfInput => "end of file"
  | .newline => "newline"
  | .semicolon => inQuotes ";"
  | .ampersand => inQuotes "&"
  | .and => inQuotes "&&"
  | .or => inQuotes "||"
  | .pipe => inQuotes "|"
  | .leftParenthesis => inQuotes "("
  | .rightParenthesis => inQuotes ")"
  | .endOfCase => inQuotes ";;"
  | .redirection _ _ => "redirection"
  | .word _ _ => "word"
  | .keyword name => inQuotes name

/-- Whether two tokens differ in nothing but their words or redirections. -/
def isSame : Token → Token → Bool
  | .word _ _, .word _ _ => true
  | .redirection _ _, .redirection _ _ => true
  | one, other => one.name = other.name

/-- Whether a list of commands ends before the token. -/
def endsList : Token → Bool
  | .endOfInput | .rightParenthesis | .endOfCase => true
  | .keyword name => keywords.lookup name == some true
  | _ => false

/-- The text of a word that stands for nothing but itself. -/
def plain? : Token → Option Bytes
  | .word [.text false bytes] false => some bytes
  | .word [] false => some []
  | _ => none

end Token

end ContainerLaunch.Rehearsal.Shell
