import ContainerLaunch.Rehearsal.Operands
import ContainerLaunch.Rehearsal.Quotation

/-! # Concatenation

The tool that prints its operands one after another. It can number their lines, leave out blank
lines next to each other, and make visible what is not.
-/

namespace ContainerLaunch.Rehearsal

structure Concatenation where
  /-- Lines are numbered. -/
  numbers : Bool := false
  /-- Blank lines have no number. -/
  skipsBlank : Bool := false
  /-- Of blank lines next to each other only one is printed. -/
  squeezes : Bool := false
  /-- The ends of lines are marked. -/
  marksEnds : Bool := false
  marksTabs : Bool := false
  /-- Control characters and bytes above ASCII are written in ASCII. -/
  marksOthers : Bool := false
  operands : List Bytes := []

namespace Concatenation

/-- The words of options, with the letter each stands for. -/
def words : List (String × Char) :=
  [("number-nonblank", 'b'), ("number", 'n'), ("squeeze-blank", 's'), ("show-nonprinting", 'v'),
    ("show-ends", 'E'), ("show-tabs", 'T'), ("show-all", 'A')]

def options : Options where
  letters := (Utf8.ofString "benstuvAET").map (·, .never)
  words := words.map fun (word, letter) ↦
    (Utf8.ofString word, .never, .ofNat letter.toNat)

/-- Takes in one argument. -/
def take (concatenation : Concatenation) : Options.Item → Concatenation
  | .operand operand =>
    { concatenation with operands := concatenation.operands ++ [operand] }
  | .option letter _ =>
    match Char.ofNat letter.toNat with
    | 'b' => { concatenation with numbers := true, skipsBlank := true }
    | 'n' => { concatenation with numbers := true }
    | 's' => { concatenation with squeezes := true }
    | 'E' => { concatenation with marksEnds := true }
    | 'T' => { concatenation with marksTabs := true }
    | 'v' => { concatenation with marksOthers := true }
    | 'e' => { concatenation with marksEnds := true, marksOthers := true }
    | 't' => { concatenation with marksTabs := true, marksOthers := true }
    | 'A' =>
      { concatenation with marksEnds := true, marksTabs := true, marksOthers := true }
    | _ => concatenation

def isPlain (concatenation : Concatenation) : Bool :=
  !(concatenation.numbers || concatenation.squeezes || concatenation.marksEnds ||
    concatenation.marksTabs || concatenation.marksOthers)

/-- A byte of ASCII, control characters as a caret and a letter. -/
def markLow (b : UInt8) : Bytes :=
  if b = 0x7F then Utf8.ofString "^?"
  else if b < 0x20 then [0x5E, b + 0x40]
  else [b]

/-- A byte other than a newline made visible. -/
def mark (concatenation : Concatenation) (b : UInt8) : Bytes :=
  if b = Ascii.tab then
    if concatenation.marksTabs then Utf8.ofString "^I" else [b]
  else if !concatenation.marksOthers then [b]
  else if b < 0x80 then markLow b
  else Utf8.ofString "M-" ++ markLow (b - 0x80)

/-- How far printing has come. -/
structure Progress where
  /-- What has been printed, the latest piece first. -/
  printed : List Bytes := []
  line : Nat := 1
  /-- Whether a line has just begun. -/
  atStart : Bool := true
  /-- How many blank lines come right before, two standing for more. -/
  blanks : Nat := 0
  /-- A carriage return is held back, which the end of a line makes visible. -/
  held : Bool := false

namespace Progress

def print (progress : Progress) (bytes : Bytes) : Progress :=
  { progress with printed := bytes :: progress.printed }

def numberLine (progress : Progress) : Progress :=
  let number := Utf8.encode ((Text.decimal progress.line).leftpad 6 ' ')
  { progress.print (number ++ [Ascii.tab]) with line := progress.line + 1 }

def release (progress : Progress) : Progress :=
  if progress.held then { progress.print [0x0D] with held := false } else progress

/-- Ends a line. -/
def endLine (concatenation : Concatenation) (progress : Progress) : Progress :=
  let blanks := if progress.atStart then min 2 (progress.blanks + 1) else 0
  let next := { progress with blanks := blanks, atStart := true, held := false }
  if blanks = 2 && concatenation.squeezes then next
  else
    let numbered :=
      if blanks > 0 && concatenation.numbers && !concatenation.skipsBlank then next.numberLine
      else next
    let held := if progress.held then Utf8.ofString "^M" else []
    let mark := if concatenation.marksEnds then [Ascii.dollar] else []
    numbered.print (held ++ mark ++ [Ascii.newline])

def feed (concatenation : Concatenation) (progress : Progress) (b : UInt8) : Progress :=
  if b = Ascii.newline then progress.endLine concatenation
  else
    let released := progress.release
    let numbered :=
      if released.atStart && concatenation.numbers then released.numberLine else released
    let within := { numbered with atStart := false, blanks := 0 }
    if b = 0x0D && concatenation.marksEnds && !concatenation.marksOthers then
      { within with held := true }
    else within.print (concatenation.mark b)

/-- Prints an operand and tells what is new on standard output. -/
def printAll (concatenation : Concatenation) (progress : Progress) (bytes : Bytes) :
    Progress × Bytes :=
  if concatenation.isPlain then (progress, bytes)
  else
    let next := bytes.foldl (feed concatenation) { progress with printed := [] }
    (next, next.printed.reverse.flatten)

end Progress

/-- One operand after another. -/
def speak (concatenation : Concatenation) (scene : Scene) (progress : Progress) :
    List (Bytes × Found) → List Utterance
  | [] => [(.out, { progress with printed := [] }.release.printed.flatten)]
  | (_, .bytes bytes) :: later =>
    let (next, printed) := progress.printAll concatenation bytes
    (.out, printed) :: concatenation.speak scene next later
  | (operand, .target bytes) :: later =>
    let said := if bytes.isEmpty then []
      else [scene.complaint (Quotation.shellWord operand ++
        Utf8.ofString ": input file is output file")]
    said ++ concatenation.speak scene progress later
  | (operand, .directory) :: later =>
    scene.complaint (Quotation.shellWord operand ++ Utf8.ofString ": " ++ reason .isDirectory) ::
      concatenation.speak scene progress later
  | (operand, .nothing reason) :: later =>
    scene.complaint (Quotation.shellWord operand ++ Utf8.ofString ": " ++ reason) ::
      concatenation.speak scene progress later

end Concatenation

def concatenate (scene : Scene) (arguments : List Bytes) : Performance :=
  let reading := Concatenation.options.read arguments
  match reading.misuse with
  | some misuse =>
    scene.refused 1 [scene.complaint misuse.message, (.err, tryHelp scene.program)]
  | none =>
    let concatenation := reading.items.foldl Concatenation.take {}
    let operands := concatenation.operands
    let closing :=
      if scene.trouble = some .badDescriptor && (operands.isEmpty || operands.any scene.isStdin)
      then [scene.complaint (Utf8.ofString "closing standard input: " ++ reason .badDescriptor)]
      else []
    let said := concatenation.speak scene {} (scene.readOperands operands) ++ closing
    ⟨said, if said.any (·.1 = .err) then 1 else 0, scene.unread operands⟩

end ContainerLaunch.Rehearsal
