import ContainerLaunch.Rehearsal.Shell.Commands.Options
import ContainerLaunch.Rehearsal.Shell.Redirections

/-! # Commands about parameters

The shell's own commands that set, list and read its variables, parameters and options. Each tells
its exit code.
-/

namespace ContainerLaunch.Rehearsal.Shell

/-- The names of options, with the letters they have. -/
def optionNames : List (String × Option Char) :=
  [("errexit", some 'e'), ("noglob", some 'f'), ("ignoreeof", some 'I'),
    ("interactive", some 'i'), ("monitor", some 'm'), ("noexec", some 'n'), ("stdin", some 's'),
    ("xtrace", some 'x'), ("verbose", some 'v'), ("vi", some 'V'), ("emacs", some 'E'),
    ("noclobber", some 'C'), ("allexport", some 'a'), ("notify", some 'b'), ("nounset", some 'u'),
    ("privileged", some 'p'), ("nolog", none), ("debug", none)]

namespace Builtin

open Run

/-- An option that is turned off when another one is turned on. -/
def opposite (letter : UInt8) : Option UInt8 :=
  if letter = 0x45 then some 0x56 else if letter = 0x56 then some 0x45 else none

/-- Sets an option. Processes in the background are never controlled, for want of a terminal. -/
def setOption (letter : UInt8) (on : Bool) : Run Unit := do
  if letter = 0x6D && on then
    complain (said "can't access tty; job control turned off")
  else changeProcess fun process ↦
    let decided := if on then letter :: (opposite letter).toList else [letter]
    let others := process.options.filter (!decided.contains ·)
    { process with
      options := if on then letter :: others else others
      undecided := process.undecided.filter (!decided.contains ·) }

/-- The letter of an option that is given by its name. -/
def namedOption (name : Bytes) : Run (Option Char) := do
  match optionNames.find? (said ·.1 = name) with
  | some (_, letter) => return letter
  | none => fail (said "Illegal option -o " ++ name)

def listOptions (asCommands : Bool) : Run Unit := do
  let undecided := (← process).undecided
  let isOn (letter : Option Char) : Run Bool := match letter with
    | some letter => return (← hasOption letter) || undecided.contains (.ofNat letter.toNat)
    | none => return !undecided.isEmpty
  if !asCommands then print (said "Current option settings\n")
  for (name, letter) in optionNames do
    let on ← isOn letter
    if asCommands then print (said ("set " ++ (if on then "-o " else "+o ") ++ name ++ "\n"))
    else
      let blanks := String.ofList (List.replicate (16 - name.length) ' ')
      print (said (name ++ blanks ++ (if on then "on" else "off") ++ "\n"))

/-- The letters of one word of options; the letter `o` takes a name from the arguments after it. -/
def setLetters (sign : UInt8) : Bytes → List Bytes → Run (List Bytes)
  | [], later => return later
  | letter :: rest, later => do
    if letter = 0x6F then
      match later with
      | [] =>
        listOptions (sign = 0x2B)
        setLetters sign rest []
      | name :: later =>
        match ← namedOption name with
        | some letter => setOption (.ofNat letter.toNat) (sign = Ascii.hyphen)
        | none => pure ()
        setLetters sign rest later
    else if optionLetters.contains letter then
      setOption letter (sign = Ascii.hyphen)
      setLetters sign rest later
    else fail (said "Illegal option -" ++ [letter])

/-- Sets options as arguments tell, and gives the arguments after them if they are parameters. -/
def setOptions : Nat → List Bytes → Run (Option (List Bytes))
  | 0, arguments => return some arguments
  | _, [] => return none
  | fuel + 1, argument :: later => do
    match argument with
    | [0x2D] =>
      setOption 0x78 false
      setOption 0x76 false
      return if later.isEmpty then none else some later
    | [0x2D, 0x2D] => return some later
    | sign :: letters =>
      if sign = Ascii.hyphen || sign = 0x2B then setOptions fuel (← setLetters sign letters later)
      else return some (argument :: later)
    | [] => return some (argument :: later)

/-- The lines that set all variables some test holds of, in order. -/
def listVariables (before : Bytes) (test : Variable → Bool) : Run Unit := do
  let found := (← process).bindings.filter test
  let ordered := found.mergeSort fun one other ↦ bytesBefore one.name other.name
  for binding in ordered do
    let value := match binding.value with
      | some value => Ascii.equalsSign :: inQuotes value
      | none => []
    print (before ++ binding.name ++ value ++ [Ascii.newline])

def set (arguments : List Bytes) : Run Nat := do
  if arguments.isEmpty then listVariables [] (·.value.isSome)
  else
    match ← setOptions (arguments.length + 1) arguments with
    | some parameters =>
      changeProcess ({ · with parameters := parameters, optionIndex := 1, optionPlace := none })
    | none => pure ()
  return 0

/-- Gives variables a property, and values if they stand after the names. -/
def declare (name : String) (exported isReadOnly : Bool) (arguments : List Bytes) : Run Nat := do
  let options ← options "p" "" arguments
  if options.has 'p' || options.operands.isEmpty then
    listVariables (said (name ++ " ")) fun binding ↦
      if exported then binding.exported else binding.isReadOnly
  else
    for argument in options.operands do
      let (name, value) := splitAssignment argument
      checkName name
      assignWith name value exported isReadOnly
  return 0

def unset (arguments : List Bytes) : Run Nat := do
  let options ← options "vf" "" arguments
  for name in options.operands do
    if (options.found.getLast?.map (·.1)) = some 'f' then
      changeProcess fun process ↦
        { process with functions := process.functions.filter (·.name ≠ name) }
    else
      checkName name
      Run.unset name
  return 0

/-- Makes variables that end with the innermost function. -/
def ownVariables (arguments : List Bytes) : Run Nat := do
  if (← process).saved.isEmpty then fail (said "not in a function")
  else
    for argument in arguments do
      let (name, value) := splitAssignment argument
      checkName name
      saveVariable name
      match value with
      | some value => assign name value
      | none => pure ()
    return 0

def shift (arguments : List Bytes) : Run Nat := do
  let count ← match arguments with
    | [] => pure 1
    | argument :: _ => countOf argument
  let parameters := (← process).parameters
  if count > parameters.length then fail (said "can't shift that many")
  else
    changeProcess fun process ↦
      { process with parameters := parameters.drop count, optionIndex := 1, optionPlace := none }
    return 0

/-! ## Reading lines -/

/-- A line that is being read. -/
structure Line where
  /-- The parts that have been ended, the latest first. -/
  segments : List Segment := []
  /-- The part that has been begun, the latest byte first. -/
  marks : List Mark := []

namespace Line

def add (line : Line) (b : UInt8) : Line := { line with marks := .byte b false :: line.marks }

/-- Ends a part at a backslash; what comes after one is never split. -/
def cut (line : Line) (escaped : Option UInt8) : Line :=
  let part : Segment := ⟨line.marks.reverse, .atSeparators⟩
  match escaped with
  | some b => ⟨.ofBytes true .nowhere [b] :: part :: line.segments, []⟩
  | none => ⟨part :: line.segments, []⟩

def result (line : Line) : List Segment := (line.cut none).segments.reverse

/-- Takes a line, in which a backslash has a meaning unless `raw` holds. What is left is told, and
whether the end of the line was found. -/
def take (raw : Bool) : Bytes → Line → Line × Bytes × Bool
  | [], line => (line, [], false)
  | b :: later, line =>
    if b = Ascii.newline then (line, later, true)
    else if b = Ascii.zero then take raw later line
    else if b = Ascii.backslash && !raw then
      match later with
      | [] => (line, [], false)
      | c :: later => take raw later (line.cut (if c = Ascii.newline then none else some c))
    else take raw later (line.add b)

end Line

/-- The fields of a line for so many variables; the last one takes all that is left. -/
def lineFields (separators : Splitting.Separators) (count : Nat) (line : Line) : List Bytes :=
  let start : Splitting.Progress := { left := some count }
  (line.result.foldl (Splitting.Progress.feedSegment separators) start).result.map Field.bytes

def read (arguments : List Bytes) : Run Nat := do
  let options ← options "r" "p" arguments
  match options.operands with
  | [] => fail (said "arg count")
  | names =>
    let input := (← unread 0).toOption.getD []
    let (line, rest, isComplete) := Line.take (options.has 'r') input {}
    leaveUnread 0 rest
    let fields := lineFields (← separators) names.length line
    for (name, index) in names.zipIdx do
      assignChecked name (fields.getD index [])
    return if isComplete then 0 else 1

/-! ## Options within parameters -/

/-- Whether a letter is known, and whether it has an argument. -/
def knows : Bytes → UInt8 → Option Bool
  | [], _ => none
  | known :: later, letter =>
    let takes := later.head? = some Ascii.colon
    if known = letter then some takes else knows (if takes then later.drop 1 else later) letter
termination_by known => known.length
decreasing_by simp only [List.length_cons]; split <;> grind

/-- What the reading of an option does with the variable for arguments. -/
inductive OptionArgument where
  | kept
  | dropped
  | given (argument : Bytes)

/-- Sets what the reading of an option leaves behind, and goes on at a word and a place in it. -/
def finishOption (name : Bytes) (letter : UInt8) (index : Nat) (place : Option Nat)
    (argument : OptionArgument) : Run Nat := do
  match argument with
  | .given argument => assign (said "OPTARG") argument
  | .dropped => Run.unset (said "OPTARG")
  | .kept => pure ()
  assign (said "OPTIND") (decimal index)
  changeProcess ({ · with optionPlace := place })
  assignChecked name [letter]
  return 0

/-- Says what is wrong with an option, unless the list of known letters begins with a colon, and
goes on. -/
def refuseOption (known name : Bytes) (letter : UInt8) (complaint : Bytes) (missing : Bool)
    (index : Nat) (place : Option Nat) : Run Nat := do
  if known.head? = some Ascii.colon then
    finishOption name (if missing then Ascii.colon else 0x3F) index place (.given [letter])
  else
    let _ ← write 2 (complaint ++ [Ascii.newline])
    finishOption name 0x3F index place .dropped

/-- Reads the option at a place within a word; `index` is the number of the word after it. -/
def optionAt (known name : Bytes) (words : List Bytes) (index place : Nat) : Run Nat := do
  let word := words.getD (index - 2) []
  let letter := word.getD place 0
  let rest := word.drop (place + 1)
  let nextPlace := if rest.isEmpty then none else some (place + 1)
  match knows known letter with
  | none =>
    refuseOption known name letter (said "Illegal option -" ++ [letter]) false index nextPlace
  | some false => finishOption name letter index nextPlace (.given [])
  | some true =>
    if !rest.isEmpty then finishOption name letter index none (.given rest)
    else match words[index - 1]? with
      | some argument => finishOption name letter (index + 1) none (.given argument)
      | none =>
        let complaint := said "No arg for -" ++ [letter] ++ said " option"
        refuseOption known name letter complaint true index none

/-- Reads the next option of the parameters or of other words. -/
def nextOption : List Bytes → Run Nat
  | known :: name :: others => do
    let process ← process
    let words := if others.isEmpty then process.parameters else others
    let isThere := process.optionIndex ≤ words.length + 1
    let index := if isThere then process.optionIndex else 1
    let inWord := process.optionPlace.filter fun place ↦
      isThere && place < (words.getD (index - 2) []).length
    match inWord with
    | some place => optionAt known name words index place
    | none =>
      let word := words.getD (index - 1) []
      if word.head? ≠ some Ascii.hyphen || word.length = 1 then finish name index
      else if word = said "--" then finish name (index + 1)
      else optionAt known name words (index + 1) 1
  | _ => fail (said "Usage: getopts optstring var [arg...]")
where
  /-- There are no more options. -/
  finish (name : Bytes) (index : Nat) : Run Nat := do
    let _ ← finishOption name 0x3F index none .kept
    return 1

end Builtin

end ContainerLaunch.Rehearsal.Shell
