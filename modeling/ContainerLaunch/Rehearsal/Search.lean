import ContainerLaunch.Rehearsal.Search.Lines

/-! # Search

The tool that prints the lines in which one of some expressions is found.
-/

namespace ContainerLaunch.Rehearsal

namespace Search

/-- How far a search has come. -/
structure Progress where
  /-- What has been said, the latest first. -/
  said : List Utterance := []
  /-- Whether a line has been selected. -/
  found : Bool := false
  failed : Bool := false
  /-- Whether lines have been printed. -/
  begun : Bool := false

/-- Whether the bytes of an operand are no text. -/
def isBinary (search : Search) (bytes : Bytes) : Bool :=
  search.binary ≠ some true && !search.zeroLines && bytes.contains Ascii.zero

/-- Searches the bytes of an operand. In an operand that is no text zero bytes end lines. -/
def searchBytes (search : Search) (scene : Scene) (expressions : List Expression)
    (progress : Progress) (name bytes : Bytes) (named : Bool) : Progress :=
  let isBinary := search.isBinary bytes
  let text := if isBinary then bytes.map fun b ↦ if b = 0 then Ascii.newline else b else bytes
  let lines := search.numberLines expressions (linesOf search.lineEnd text)
  let (lines, rest) := search.splitAtLimit 0 lines
  let found := lines.any Numbered.selected
  let showsLines := search.output = .lines ∨ search.output = .findings
  if isBinary && search.binary = some false then progress
  else
    let printed :=
      if search.quiet then []
      else if isBinary && showsLines then
        if found then
          scene.program ++ Utf8.ofString ": " ++ name ++
            Utf8.ofString ": binary file matches\n"
        else []
      else search.print expressions name named progress.begun lines rest
    { progress with
      said := (.out, printed) :: progress.said
      found := progress.found || found
      begun := progress.begun || !printed.isEmpty }

def fail (search : Search) (scene : Scene) (progress : Progress) (operand reason : Bytes) :
    Progress :=
  let complaint := scene.complaint (operand ++ Utf8.ofString ": " ++ reason)
  { progress with
    said := if search.silent then progress.said else complaint :: progress.said
    failed := true }

/-- Whether the search of a file would never end if the lines it finds went to that file. -/
def couldGoOn (search : Search) : Bool :=
  !search.quiet && search.most ≠ some 1 && (search.output = .lines || search.output = .findings)

/-- Searches one operand, unless a quiet search has found something. -/
def searchOperand (search : Search) (scene : Scene) (expressions : List Expression)
    (progress : Progress) : Bytes × Found → Progress
  | (operand, found) =>
    let named := search.named.getD (search.operands.length > 1)
    if search.quiet && progress.found then progress
    else if search.skipsDevices && scene.isDevice operand then progress
    else
      let name := if operand = [Ascii.hyphen] then search.label else operand
      match found with
      | .bytes bytes => search.searchBytes scene expressions progress name bytes named
      | .target bytes =>
        if search.couldGoOn then
          search.fail scene progress name (Utf8.ofString "input file is also the output")
        else search.searchBytes scene expressions progress name bytes named
      | .directory =>
        if search.directories = .read then
          search.fail scene progress name (reason .isDirectory)
        else progress
      | .nothing reason => search.fail scene progress name reason

/-- What the expressions turn out to be, or what is said of those that are none. -/
def expressions (search : Search) (scene : Scene) (patterns : List Bytes) :
    Except (List Utterance) (List Expression × List Utterance) :=
  match search.matcher.getD (.expressions .basic) with
  | .strings => .ok (patterns.map Expression.ofBytes, [])
  | .expressions dialect =>
    let outcomes := patterns.map (Expression.parse dialect)
    let faults := outcomes.filterMap fun
      | .error fault => some fault
      | .ok _ => none
    let read := outcomes.filterMap Except.toOption
    let warnings := read.flatMap fun (_, stray) ↦ stray.map fun sign ↦
      scene.complaint (Utf8.ofString ("warning: " ++ sign.name ++ " at start of expression"))
    if faults.isEmpty then .ok (read.map (·.1), warnings)
    else .error (faults.map fun fault ↦ scene.complaint (Utf8.ofString fault.message))

/-- Searches operands for expressions. -/
def run (search : Search) (scene : Scene) (patterns : List Bytes) : Performance :=
  let warnings := search.warnings.map scene.complaint
  match search.expressions scene patterns with
  | .error said => scene.refused 2 (warnings ++ said)
  | .ok (expressions, more) =>
    if search.most = some 0 then scene.refused 1 (warnings ++ more)
    else
      let operands := if search.operands.isEmpty && search.recursive then [Path.here]
        else search.operands
      let start : Progress := { said := (warnings ++ more).reverse }
      let progress := (scene.readOperands operands).foldl
        (search.searchOperand scene expressions) start
      let code :=
        if progress.failed && !(search.quiet && progress.found) then 2
        else if progress.found then 0
        else 1
      ⟨progress.said.reverse, code, scene.unread operands⟩

end Search

/-- The first operand tells what to search for if no option does. -/
def search (scene : Scene) (arguments : List Bytes) : Performance :=
  let reading := Search.options.read arguments
  let refuse (code : Nat) (words : List Bytes) (after : Bytes) : Performance :=
    scene.refused code (words.map scene.complaint ++ [(.err, after), Search.usage])
  let chosen := reading.items.foldlM (fun (search : Search) item ↦ search.take scene item) {}
  match chosen, reading.misuse with
  | .error (.worded words), _ => scene.refused 2 [scene.complaint words]
  | .error (.reminding words after), _ => refuse 1 words after
  | .ok _, some misuse => refuse 2 [misuse.message] []
  | .ok search, none =>
    match search.patterns, search.operands with
    | some patterns, _ => search.run scene patterns
    | none, [] => refuse 2 [] []
    | none, pattern :: operands =>
      { search with operands := operands }.run scene (splitAtEvery Ascii.newline pattern)

end ContainerLaunch.Rehearsal
