import ContainerLaunch.Rehearsal.Operands
import ContainerLaunch.Rehearsal.Quotation
import ContainerLaunch.Rehearsal.Search.Expression

/-! # What to search for

The options of the tool that searches: how its expressions are written, which lines are selected and
what is printed of them.
-/

namespace ContainerLaunch.Rehearsal

/-- What the tool does with the operands that are directories. -/
inductive DirectoryAction where
  | read
  | recurse
  | skip
  deriving DecidableEq, Repr

/-- How the expressions to search for are written. -/
inductive Matcher where
  | expressions (dialect : Expression.Dialect)
  | strings
  deriving DecidableEq, Repr

/-- What is printed of an operand. -/
inductive SearchOutput where
  | lines
  /-- Only the strings that were found. -/
  | findings
  | count
  /-- The name of the operand, if a line was selected in it or if none was. -/
  | name (selected : Bool)
  deriving DecidableEq, Repr

structure Search where
  matcher : Option Matcher := none
  /-- What to search for, a line for each expression, if options have told. -/
  patterns : Option (List Bytes) := none
  output : SearchOutput := .lines
  /-- Nothing is printed; the exit code tells whether there is such a line. -/
  quiet : Bool := false
  /-- Operands that cannot be read are not told of. -/
  silent : Bool := false
  /-- Lines are selected in which nothing is found. -/
  inverted : Bool := false
  folds : Bool := false
  /-- Only whole words count. -/
  words : Bool := false
  /-- Only whole lines count. -/
  wholeLines : Bool := false
  /-- Whether the name of the operand is printed; if left open, where there are several. -/
  named : Option Bool := none
  numbered : Bool := false
  offsets : Bool := false
  /-- The name is followed by a zero byte. -/
  zeroAfterName : Bool := false
  /-- Lines end with a zero byte. -/
  zeroLines : Bool := false
  /-- Whether operands that are no text are printed like others or passed over; if left open, it is
  only told that something was found in them. -/
  binary : Option Bool := none
  directories : DirectoryAction := .read
  /-- Whether to go into the working directory when there are no operands. -/
  recursive : Bool := false
  skipsDevices : Bool := false
  most : Option Nat := none
  before : Nat := 0
  after : Nat := 0
  separator : Option Bytes := some (Utf8.ofString "--")
  label : Bytes := Utf8.ofString "(standard input)"
  /-- What is said before anything is searched. -/
  warnings : List Bytes := []
  operands : List Bytes := []

namespace Search

/-! ## Options -/

def letter (c : Char) : UInt8 := .ofNat c.toNat

/-- The words of options; those without a letter of their own have a number beyond ASCII. -/
def wordTable : List (String × Valued × UInt8) :=
  [("basic-regexp", .never, letter 'G'), ("extended-regexp", .never, letter 'E'),
    ("fixed-regexp", .never, letter 'F'), ("fixed-strings", .never, letter 'F'),
    ("perl-regexp", .never, letter 'P'), ("after-context", .always, letter 'A'),
    ("before-context", .always, letter 'B'), ("binary-files", .always, 0x80),
    ("byte-offset", .never, letter 'b'), ("context", .always, letter 'C'),
    ("color", .attached, 0x81), ("colour", .attached, 0x81), ("count", .never, letter 'c'),
    ("devices", .always, letter 'D'), ("directories", .always, letter 'd'),
    ("exclude", .always, 0x82), ("exclude-from", .always, 0x83), ("exclude-dir", .always, 0x84),
    ("file", .always, letter 'f'), ("files-with-matches", .never, letter 'l'),
    ("files-without-match", .never, letter 'L'), ("group-separator", .always, 0x85),
    ("help", .never, 0x86), ("include", .always, 0x87), ("ignore-case", .never, letter 'i'),
    ("no-ignore-case", .never, 0x88), ("initial-tab", .never, letter 'T'),
    ("label", .always, 0x89), ("line-buffered", .never, 0x8A),
    ("line-number", .never, letter 'n'), ("line-regexp", .never, letter 'x'),
    ("max-count", .always, letter 'm'), ("no-filename", .never, letter 'h'),
    ("no-group-separator", .never, 0x8B), ("no-messages", .never, letter 's'),
    ("null", .never, letter 'Z'), ("null-data", .never, letter 'z'),
    ("only-matching", .never, letter 'o'), ("quiet", .never, letter 'q'),
    ("recursive", .never, letter 'r'), ("dereference-recursive", .never, letter 'R'),
    ("regexp", .always, letter 'e'), ("invert-match", .never, letter 'v'),
    ("silent", .never, letter 'q'), ("text", .never, letter 'a'), ("binary", .never, letter 'U'),
    ("unix-byte-offsets", .never, letter 'u'), ("version", .never, letter 'V'),
    ("with-filename", .never, letter 'H'), ("word-regexp", .never, letter 'w')]

def options : Options where
  letters := (Utf8.ofString "0123456789EFGHILPTUVZabchilnoqrRsuvwxyz").map (·, .never) ++
    (Utf8.ofString "ABCDXdefm").map (·, .always)
  words := wordTable.map fun (word, rest) ↦ (Utf8.ofString word, rest)

def usage : Utterance :=
  (.err, Utf8.ofString ("Usage: grep [OPTION]... PATTERNS [FILE]...\n" ++
    "Try 'grep --help' for more information.\n"))

/-- Why the tool ends before it has searched. -/
inductive Refusal where
  /-- In these words. -/
  | worded (words : Bytes)
  /-- In these words, and with a reminder of how to call the tool. -/
  | reminding (words : List Bytes) (after : Bytes)

def wrongAction (kind : String) (action : Bytes) : Refusal :=
  .reminding
    [Utf8.ofString (kind ++ " argument ") ++ Quotation.phrase action ++
      Utf8.ofString " for '--directories'"]
    (Utf8.ofString "Valid arguments are:\n  - 'read'\n  - 'recurse'\n  - 'skip'\n")

/-- An action may be cut short as long as it is clear. -/
def action (given : Bytes) : Except Refusal DirectoryAction :=
  let known : List (String × DirectoryAction) :=
    [("read", .read), ("recurse", .recurse), ("skip", .skip)]
  match known.filter fun (name, _) ↦ given.isPrefixOf (Utf8.ofString name) with
  | [(_, action)] => .ok action
  | [] => .error (wrongAction "invalid" given)
  | _ => .error (wrongAction "ambiguous" given)

def setMatcher (search : Search) (matcher : Matcher) : Except Refusal Search :=
  if search.matcher.all (· = matcher) then .ok { search with matcher := some matcher }
  else .error (.worded (Utf8.ofString "conflicting matchers specified"))

def addPatterns (search : Search) (patterns : List Bytes) : Search :=
  { search with patterns := some (search.patterns.getD [] ++ patterns) }

/-- The number of lines around a selected one. -/
def contextLength (given : Bytes) : Except Refusal Nat :=
  match Ascii.number? given with
  | some n => .ok n
  | none => .error (.worded (given ++ Utf8.ofString ": invalid context length argument"))

/-- How many lines to select; a number below zero sets no limit. -/
def limit (given : Bytes) : Except Refusal (Option Nat) :=
  match given with
  | 0x2D :: digits =>
    if (Ascii.number? digits).isSome then .ok none
    else .error (.worded (Utf8.ofString "invalid max count"))
  | _ =>
    match Ascii.number? given with
    | some n => .ok (some n)
    | none => .error (.worded (Utf8.ofString "invalid max count"))

def linesOf (ending : UInt8) (bytes : Bytes) : List Bytes :=
  let parts := splitAtEvery ending bytes
  if parts.getLast? = some [] then parts.dropLast else parts

/-- Takes in an option with a number of its own or a value. -/
def takeValued (search : Search) (scene : Scene) (name : UInt8) (value : Bytes) :
    Except Refusal Search :=
  if name = 0x80 then
    if value = Utf8.ofString "binary" then .ok { search with binary := none }
    else if value = Utf8.ofString "text" then .ok { search with binary := some true }
    else if value = Utf8.ofString "without-match" then .ok { search with binary := some false }
    else .error (.worded (Utf8.ofString "unknown binary-files type"))
  else if name = 0x85 then .ok { search with separator := some value }
  else if name = 0x88 then .ok { search with folds := false }
  else if name = 0x89 then .ok { search with label := value }
  else if name = 0x8B then .ok { search with separator := none }
  else match Char.ofNat name.toNat with
    | 'A' => return { search with after := ← contextLength value }
    | 'B' => return { search with before := ← contextLength value }
    | 'C' => do
      let length ← contextLength value
      return { search with before := length, after := length }
    | 'D' =>
      if value = Utf8.ofString "skip" then .ok { search with skipsDevices := true }
      else if value = Utf8.ofString "read" then .ok { search with skipsDevices := false }
      else .error (.worded (Utf8.ofString "unknown devices method"))
    | 'X' =>
      if value = Utf8.ofString "grep" then search.setMatcher (.expressions .basic)
      else if value = Utf8.ofString "egrep" then search.setMatcher (.expressions .extended)
      else if value = Utf8.ofString "fgrep" then search.setMatcher .strings
      else .error (.worded (Utf8.ofString "invalid matcher " ++ value))
    | 'd' => do
      let chosen ← action value
      return { search with directories := chosen, recursive := chosen = .recurse }
    | 'e' => .ok (search.addPatterns (splitAtEvery Ascii.newline value))
    | 'f' =>
      if scene.isStdin value then .ok (search.addPatterns (linesOf Ascii.newline scene.stdin))
      else match scene.lookUp value with
        | .bytes bytes | .target bytes =>
          .ok (search.addPatterns (linesOf Ascii.newline bytes))
        | .directory => .error (.worded (value ++ Utf8.ofString ": " ++ reason .isDirectory))
        | .nothing reason => .error (.worded (value ++ Utf8.ofString ": " ++ reason))
    | 'm' => return { search with most := ← limit value }
    | _ => .ok search

/-- Takes in an option without a value. -/
def takeLetter (search : Search) (name : UInt8) : Except Refusal Search :=
  match Char.ofNat name.toNat with
  | 'E' | 'P' => search.setMatcher (.expressions .extended)
  | 'F' => search.setMatcher .strings
  | 'G' => search.setMatcher (.expressions .basic)
  | 'H' => .ok { search with named := some true }
  | 'h' => .ok { search with named := some false }
  | 'I' => .ok { search with binary := some false }
  | 'a' => .ok { search with binary := some true }
  | 'L' => .ok { search with output := .name false }
  | 'l' => .ok { search with output := .name true }
  | 'Z' => .ok { search with zeroAfterName := true }
  | 'b' => .ok { search with offsets := true }
  | 'c' => .ok (if search.output matches .name _ then search else { search with output := .count })
  | 'i' | 'y' => .ok { search with folds := true }
  | 'n' => .ok { search with numbered := true }
  | 'o' => .ok (if search.output = .lines then { search with output := .findings } else search)
  | 'q' => .ok { search with quiet := true }
  | 'r' | 'R' => .ok { search with directories := .recurse, recursive := true }
  | 's' => .ok { search with silent := true }
  | 'u' =>
    let warning := Utf8.ofString "warning: --unix-byte-offsets (-u) is obsolete"
    .ok { search with warnings := search.warnings ++ [warning] }
  | 'v' => .ok { search with inverted := true }
  | 'w' => .ok { search with words := true }
  | 'x' => .ok { search with wholeLines := true }
  | 'z' => .ok { search with zeroLines := true }
  | _ => .ok search

def take (search : Search) (scene : Scene) : Options.Item → Except Refusal Search
  | .operand operand => .ok { search with operands := search.operands ++ [operand] }
  | .option name value =>
    if (Utf8.ofString "ABCDXdefm").contains name || name ≥ 0x80 then
      search.takeValued scene name value
    else search.takeLetter name

end Search

end ContainerLaunch.Rehearsal
