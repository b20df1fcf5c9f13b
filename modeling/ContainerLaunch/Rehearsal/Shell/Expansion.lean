import ContainerLaunch.Rehearsal.Shell.Arithmetic
import ContainerLaunch.Rehearsal.Shell.Fields

/-! # Expansion

What the words of commands stand for: parameters, arithmetic, what commands print, and the paths
that patterns match.
-/

namespace ContainerLaunch.Rehearsal.Shell

/-- Where a tilde stands for a directory. -/
inductive Tildes where
  | nowhere
  | atFront
  /-- At the front of the value of an assignment and after each of its colons. -/
  | inAssignment
  deriving DecidableEq, Repr

/-- What a word is expanded for. -/
structure Purpose where
  /-- The word may become several fields. -/
  splits : Bool
  tildes : Tildes
  /-- Plain text is split as well. -/
  splitsText : Bool := false

namespace Run

def isSet (name : Bytes) (value : Option Bytes) : Bool :=
  value.isSome || name = said "@" || name = said "*"

/-- The letters of all options that can be asked for, the way they are listed. -/
def optionLetters : Bytes := said "upbaCEVvxsnmiIfe"

/-- The value of a parameter other than the two that stand for all of them. -/
def parameterValue (name : Bytes) : Run (Option Bytes) := do
  let process ← process
  match name.map fun b ↦ Char.ofNat b.toNat with
  | ['?'] => return some (decimal process.status)
  | ['$'] => return some (decimal process.mainId)
  | ['#'] => return some (decimal process.parameters.length)
  | ['!'] => return process.lastChild.map decimal
  | ['-'] => return some (optionLetters.filter process.options.contains)
  | _ =>
    match Ascii.number? name with
    | some 0 => return some process.name
    | some (n + 1) => return process.parameters[n]?
    | none => value? name

/-- All parameters in one segment. Quoted, and where the word may become several fields, `@` keeps
them apart; else they are joined by the first separator. -/
def allParameters (purpose : Purpose) (quoted : Bool) (name : Bytes) : Run Segment := do
  let parameters := (← process).parameters
  let separators ← value? (said "IFS")
  let apart : Bool :=
    purpose.splits && if quoted then name = said "@" else separators.isSome
  let between : List Mark :=
    if apart then [.boundary]
    else match separators with
      | none => [.byte Ascii.blank quoted]
      | some separators => (separators.take 1).map (.byte · quoted)
  let marks := between.intercalate (parameters.map fun value ↦ value.map (.byte · quoted))
  let splitting : Splitting :=
    if !purpose.splits then .nowhere
    else if !quoted then .atSeparators
    else if name = said "@" && !parameters.isEmpty then .atBoundaries
    else .nowhere
  return ⟨marks, splitting⟩

def splittingOf (purpose : Purpose) (quoted : Bool) : Splitting :=
  if quoted || !purpose.splits then .nowhere else .atSeparators

/-- The home directory of a user, or one's own. -/
def home? (user : Bytes) : Run (Option Bytes) := do
  if user.isEmpty then value? (said "HOME")
  else if user = said "root" then return some (said "/root")
  else return none

/-- A tilde in front of text, and the text after the name of its user. If more pieces follow, the
name must end within the text. -/
def tilde? (tildes : Tildes) (isLast : Bool) (bytes : Bytes) : Run (Option (Bytes × Bytes)) := do
  match bytes with
  | 0x7E :: later =>
    let endsName (b : UInt8) : Bool :=
      b = Ascii.slash || (tildes = .inAssignment && b = Ascii.colon)
    let user := later.takeWhile (!endsName ·)
    let rest := later.drop user.length
    if rest.isEmpty && !isLast then return none
    else return (← home? user).map (·, rest)
  | _ => return none

/-- Plain text, in which tildes stand for directories. -/
def expandTildes (tildes : Tildes) (isLast : Bool) (splitting : Splitting) :
    Nat → Bool → Bool → Bytes → Run (List Segment)
  | 0, _, _, bytes => return [.ofBytes false splitting bytes]
  | _, _, _, [] => return []
  | fuel + 1, atFront, afterEquals, b :: later => do
    match ← if atFront then tilde? tildes isLast (b :: later) else pure none with
    | some (directory, rest) =>
      return .ofBytes true .nowhere directory ::
        (← expandTildes tildes isLast splitting fuel false afterEquals rest)
    | none =>
      let isEquals := b = Ascii.equalsSign && !afterEquals
      let isFront := tildes = .inAssignment && (isEquals || (b = Ascii.colon && afterEquals))
      let rest ← expandTildes tildes isLast splitting fuel isFront (afterEquals || isEquals) later
      match rest with
      | ⟨.byte c false :: marks, other⟩ :: segments =>
        if other = splitting then
          return ⟨.byte b false :: .byte c false :: marks, splitting⟩ :: segments
        else return .ofBytes false splitting [b] :: rest
      | _ => return .ofBytes false splitting [b] :: rest

def plainText (purpose : Purpose) (isFirst isLast : Bool) (bytes : Bytes) :
    Run (List Segment) := do
  let splitting : Splitting := if purpose.splitsText then .atSeparators else .nowhere
  if purpose.tildes = .nowhere || !bytes.contains 0x7E then
    return [.ofBytes false splitting bytes]
  else expandTildes purpose.tildes isLast splitting (bytes.length + 1) isFirst false bytes

/-- Says that a parameter is unset, and ends the command. -/
def failUnset {α : Type} (name : Bytes) (nulls : Bool) (message : Option Bytes) : Run α := do
  let words := message.getD (said ("parameter not set" ++ if nulls then " or null" else ""))
  fail (name ++ said ": " ++ words)

/-- All bytes of an expansion, with blanks between parameters. -/
def joinSegments (segments : List Segment) : Bytes :=
  segments.flatMap fun segment ↦ Field.bytes segment.marks

def toPattern (segments : List Segment) : Bytes :=
  segments.flatMap fun segment ↦ Field.pattern segment.marks

/-- Takes away the part of a value that a pattern matches. Of several parameters, the pattern is
held against the first one, or for a tail of any length against the end of each one; all that
comes before a head or after a tail is taken away with it. -/
def trimmed (trim : Trim) (pattern : Bytes) (segment : Segment) : Segment :=
  let marks := segment.marks
  let firstBytes (marks : List Mark) : Bytes := Field.bytes (marks.takeWhile (· ≠ .boundary))
  let first := firstBytes marks
  let holds (bytes : Bytes) : Bool := matchesPattern pattern bytes
  let within := List.range (first.length + 1)
  let backwards := (List.range (marks.length + 1)).reverse
  let left : Option (List Mark) := match trim with
    | .shortestHead => (within.find? fun n ↦ holds (first.take n)).map marks.drop
    | .longestHead => (backwards.find? fun n ↦ holds (first.take n)).map marks.drop
    | .shortestTail => (backwards.find? fun n ↦ holds (firstBytes (marks.drop n))).map marks.take
    | .longestTail => (within.find? fun n ↦ holds (first.drop n)).map marks.take
  { segment with marks := left.getD marks }

/-- What the expansion of pieces depends on. -/
structure Expander where
  /-- What some commands print. -/
  output : Option Command → Run Bytes
  pieces : Purpose → Word → Run (List Segment)

namespace Expander

/-- A parameter whose value is changed in some way. -/
def parameter (expander : Expander) (purpose : Purpose) (quoted : Bool) (name : Bytes) (use : Use) :
    Run (List Segment) := do
  match use with
  | .misused => fail (said "Bad substitution")
  | _ => pure ()
  let isAll := name = said "@" || name = said "*"
  let value ← if isAll then pure none else parameterValue name
  let whole ← if isAll then allParameters purpose quoted name
    else pure (.ofBytes quoted (splittingOf purpose quoted) (value.getD []))
  let isSet := isAll || value.isSome
  let checked : Run Unit := do
    if !isSet && (← hasOption 'u') then failUnset name false none
  let within (purpose : Purpose) (word : Word) : Run (List Segment) :=
    expander.pieces { purpose with tildes := .atFront, splitsText := purpose.splits } word
  match use with
  | .value | .misused =>
    checked
    return [whole]
  | .length =>
    checked
    return [.ofBytes quoted (splittingOf purpose quoted) (decimal whole.marks.length)]
  | .trimmed trim word =>
    checked
    if !isSet then return [whole]
    let pattern ← expander.pieces { splits := false, tildes := .atFront } word
    return [trimmed trim (toPattern pattern) whole]
  | .otherwise what nulls word =>
    let counts := isSet && !(nulls && whole.marks.isEmpty)
    match what, counts with
    | .replace, true => within purpose word
    | .replace, false => return []
    | .use, false => within purpose word
    | .assign, false =>
      let segments ← expander.pieces { splits := false, tildes := .atFront } word
      assignChecked name (joinSegments segments)
      let value := (← parameterValue name).getD []
      return [.ofBytes quoted (splittingOf purpose quoted) value]
    | .complain, false =>
      let segments ← expander.pieces { splits := false, tildes := .atFront } word
      failUnset name nulls (if word.isEmpty then none else some (joinSegments segments))
    | _, true => return [whole]

def piece (expander : Expander) (purpose : Purpose) (isFirst isLast : Bool) :
    Piece → Run (List Segment)
  | .text true bytes => return [⟨.quotes :: bytes.map (.byte · true), .nowhere⟩]
  | .text false bytes => plainText purpose isFirst isLast bytes
  | .parameter quoted name use => expander.parameter purpose quoted name use
  | .output quoted commands => do
    return [.ofBytes quoted (splittingOf purpose quoted) (← expander.output commands)]
  | .arithmetic quoted expression => do
    let segments ← expander.pieces { splits := false, tildes := .nowhere } expression
    let value ← evaluate (joinSegments segments)
    let written := Utf8.encode (Text.integer value)
    return [.ofBytes quoted (splittingOf purpose quoted) written]

def word (expander : Expander) (purpose : Purpose) : Bool → Word → Run (List Segment)
  | _, [] => return []
  | isFirst, piece :: later => do
    let segments ← expander.piece purpose isFirst later.isEmpty piece
    return segments ++ (← expander.word purpose false later)

end Expander

/-- Expands pieces; `depth` bounds how deep they stand within others. -/
def expandPieces (output : Option Command → Run Bytes) :
    Nat → Purpose → Word → Run (List Segment)
  | 0, _, _ => fail (said "Bad substitution")
  | depth + 1, purpose, word =>
    Expander.word ⟨output, expandPieces output depth⟩ purpose true word

/-- How deep the pieces of words may stand within others. -/
def deepest : Nat := 10000

/-! ## Paths -/

/-- A byte of a pattern that stands for other bytes. -/
def isWild : Mark → Bool
  | .byte b false => b = 0x2A || b = 0x3F || b = Pattern.openBracket
  | _ => false

def isSlash : Mark → Bool
  | .byte b _ => b = Ascii.slash
  | _ => false

/-- The names in a directory that match a pattern. Names with a dot in front must be asked for. -/
def matchingNames (world : World) (working : Place) (directory : Bytes) (pattern : Field) :
    List Bytes :=
  let path := if directory.isEmpty then Path.here else directory
  match world.tree.reach working path with
  | .error _ => []
  | .ok place =>
    let asksDots := (Field.bytes pattern).head? = some Ascii.dot
    let names := Path.here :: Path.above :: world.tree.namesIn place
    names.filter fun name ↦
      (asksDots || name.head? ≠ some Ascii.dot) && matchesPattern (Field.pattern pattern) name

/-- Whether anything is at a path. -/
def isThere (world : World) (working : Place) (path : Bytes) : Bool :=
  (world.tree.resolve working path).toOption.isSome

/-- The paths that begin with a text and go on with something a pattern matches. -/
def matchingPaths (world : World) (working : Place) :
    Nat → Bytes → Field → List Bytes
  | 0, _, _ => []
  | fuel + 1, before, pattern =>
    match pattern.findIdx? isWild with
    | none =>
      let path := before ++ Field.bytes pattern
      if isThere world working path then [path] else []
    | some wild =>
      let front := pattern.take wild
      let named := (front.reverse.dropWhile (!isSlash ·)).reverse
      let directory := before ++ Field.bytes named
      let later := pattern.drop named.length
      let component := later.takeWhile (!isSlash ·)
      let rest := later.drop component.length
      (matchingNames world working directory component).flatMap fun name ↦
        if rest.isEmpty then [directory ++ name]
        else matchingPaths world working fuel (directory ++ name) rest

def bytesBefore : Bytes → Bytes → Bool
  | [], _ => true
  | _ :: _, [] => false
  | b :: bytes, c :: others => b < c || (b = c && bytesBefore bytes others)

/-- The paths that a field matches in order, or the field itself. -/
def pathsOf (field : Field) : Run (List Bytes) := do
  if !field.any isWild || (← hasOption 'f') then return [Field.bytes field]
  else
    let state ← get
    let found := matchingPaths state.world state.process.working (field.length + 1) [] field
    if found.isEmpty then return [Field.bytes field]
    else return found.mergeSort bytesBefore

/-! ## Words -/

def separators : Run Splitting.Separators :=
  return .ofValue (← value? (said "IFS"))

/-- The fields of a word that is an argument. -/
def expandArgument (output : Option Command → Run Bytes) (word : Word) : Run (List Bytes) := do
  let segments ← expandPieces output deepest { splits := true, tildes := .atFront } word
  let fields := split (← separators) segments
  return (← fields.mapM pathsOf).flatten

def expandArguments (output : Option Command → Run Bytes) (words : List Word) :
    Run (List Bytes) :=
  return (← words.mapM (expandArgument output)).flatten

/-- The bytes of a word that is never split. -/
def expandWhole (output : Option Command → Run Bytes) (tildes : Tildes) (word : Word) :
    Run Bytes :=
  return joinSegments (← expandPieces output deepest { splits := false, tildes := tildes } word)

/-- A word as a pattern. -/
def expandPattern (output : Option Command → Run Bytes) (word : Word) : Run Bytes :=
  return toPattern (← expandPieces output deepest { splits := false, tildes := .atFront } word)

end Run

end ContainerLaunch.Rehearsal.Shell
