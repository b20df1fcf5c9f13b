import ContainerLaunch.Rehearsal.Escapes
import ContainerLaunch.Rehearsal.Shell.Fractions

/-! # Formats

The command that puts its arguments into a format. The format is used again while there are
arguments left, and arguments that are missing count as empty.
-/

namespace ContainerLaunch.Rehearsal.Shell

namespace Format

/-- How far the printing has come. -/
structure Progress where
  arguments : List Bytes
  /-- Whether an argument was not the number it should have been. -/
  failed : Bool := false
  /-- An argument has ended all printing. -/
  stopped : Bool := false

abbrev Printing := StateT Progress Run

def print (bytes : Bytes) : Printing Unit := (Run.print bytes : Run Unit)

def takeArgument : Printing (Option Bytes) := do
  let progress ← get
  set { progress with arguments := progress.arguments.drop 1 }
  return progress.arguments.head?

/-- Warns of an argument and goes on. -/
def warn (argument : Bytes) (words : Bytes) : Printing Unit := do
  (Run.complain (argument ++ said ": " ++ words) : Run Unit)
  modify ({ · with failed := true })

/-- Looks at what came after a number in its argument. -/
def check (argument rest : Bytes) (isRead isLost : Bool) : Printing Unit := do
  if !isRead && !argument.isEmpty then warn argument (said "expected numeric value")
  else if !rest.isEmpty then warn argument (said "not completely converted")
  else if isLost then warn argument (reason .outOfRange)

/-- A quote before a byte makes it a number. -/
def quoted? (argument : Bytes) : Option Int :=
  match argument with
  | mark :: later =>
    if mark = Ascii.quote || mark = Ascii.doubleQuote then some (later.headD 0).toNat else none
  | [] => none

def signedArgument : Printing Int := do
  match ← takeArgument with
  | none => return 0
  | some argument =>
    match quoted? argument, Numbers.signed Numbers.natural argument with
    | some n, _ => return n
    | none, some (n, isLost, rest) =>
      check argument rest true isLost
      return n
    | none, none =>
      check argument argument false false
      return 0

/-- A number modulo two to the 64th. -/
def unsignedArgument : Printing Nat := do
  match ← takeArgument with
  | none => return 0
  | some argument =>
    let unsigned := argument.dropWhile Ascii.isSpace
    let isNegative := unsigned.head? = some Ascii.hyphen
    let digits :=
      if isNegative || unsigned.head? = some 0x2B then unsigned.drop 1 else unsigned
    match quoted? argument, Numbers.natural digits with
    | some n, _ => return n.toNat
    | none, some (n, rest) =>
      let bound := Nat.pow 2 64
      check argument rest true (n ≥ bound)
      if n ≥ bound then return bound - 1
      else return if isNegative then (bound - n) % bound else n
    | none, none =>
      check argument argument false false
      return 0

def fractionArgument : Printing Fraction := do
  match ← takeArgument with
  | none => return .finite false 0 1
  | some argument =>
    match quoted? argument, Fraction.read? argument with
    | some n, _ => return .finite false n.toNat 1
    | none, some (fraction, isLost, rest) =>
      check argument rest true isLost
      return fraction
    | none, none =>
      check argument argument false false
      return .finite false 0 1

/-- How something is put into the format. -/
structure Directive where
  flags : Bytes
  width : Nat
  precision : Option Nat

namespace Directive

def has (directive : Directive) (flag : Char) : Bool :=
  directive.flags.contains (.ofNat flag.toNat)

/-- Fills up with blanks on the left, or on the right if that is asked for. -/
def pad (directive : Directive) (bytes : Bytes) : Bytes :=
  let blanks := List.replicate (directive.width - bytes.length) Ascii.blank
  if directive.has '-' then bytes ++ blanks else blanks ++ bytes

/-- Fills up with zeros after the sign if that is asked for, else with blanks. -/
def padNumber (directive : Directive) (mayHaveZeros : Bool) (sign digits : Bytes) : Bytes :=
  if directive.has '0' && !directive.has '-' && mayHaveZeros then
    sign ++ Fraction.zeros (directive.width - sign.length - digits.length) ++ digits
  else directive.pad (sign ++ digits)

/-- The sign of a number that may be negative. -/
def sign (directive : Directive) (negative : Bool) : Bytes :=
  if negative then [Ascii.hyphen]
  else if directive.has '+' then [0x2B]
  else if directive.has ' ' then [Ascii.blank]
  else []

/-- Digits with zeros before them. Without any, zero has no digit. -/
def digits (directive : Directive) (n : Nat) (written : Bytes) : Bytes :=
  match directive.precision with
  | none => written
  | some precision =>
    if n = 0 && precision = 0 then [] else Fraction.zeros (precision - written.length) ++ written

def signed (directive : Directive) (n : Int) : Bytes :=
  directive.padNumber directive.precision.isNone (directive.sign (n < 0))
    (directive.digits n.natAbs (decimal n.natAbs))

def unsigned (directive : Directive) (letter : Char) (n : Nat) : Bytes :=
  let base := match letter with
    | 'o' => 8
    | 'u' => 10
    | _ => 16
  let written := Utf8.encode (Nat.toDigits base n)
  let digits := directive.digits n written
  let marked :=
    if letter = 'o' && directive.has '#' && digits.head? ≠ some 0x30 then 0x30 :: digits
    else digits
  let mark := if base = 16 && directive.has '#' && n ≠ 0 then said "0x" else []
  let lower := directive.padNumber directive.precision.isNone mark marked
  if letter = 'X' then lower.map Ascii.toUpper else lower

def fraction (directive : Directive) (letter : Char) (value : Fraction) : Bytes :=
  let precision := directive.precision.getD 6
  let alternate := directive.has '#'
  let lower := match value with
    | .infinite negative => directive.padNumber false (directive.sign negative) (said "inf")
    | .undefined negative => directive.padNumber false (directive.sign negative) (said "nan")
    | .finite negative numerator denominator =>
      let written := match letter.toLower with
        | 'f' => Fraction.positional precision alternate numerator denominator
        | 'e' => Fraction.scientific precision alternate numerator denominator
        | _ => Fraction.general precision alternate numerator denominator
      directive.padNumber true (directive.sign negative) written
  if letter.isUpper then lower.map Ascii.toUpper else lower

def string (directive : Directive) (bytes : Bytes) : Bytes :=
  directive.pad (match directive.precision with
    | some precision => bytes.take precision
    | none => bytes)

end Directive

/-- A number in a directive, or the argument that a star stands for. -/
def amount (format : Bytes) : Printing (Option Int × Bytes) := do
  if format.head? = some 0x2A then return (some (← signedArgument), format.drop 1)
  else
    let digits := format.takeWhile Ascii.isDigit
    return (if digits.isEmpty then none else some (Ascii.number digits), format.drop digits.length)

/-- Puts an argument into the format as a letter tells; `written` is the whole directive. -/
def convert (directive : Directive) (letter : UInt8) (written : Bytes) : Printing Unit := do
  match Char.ofNat letter.toNat with
  | 'b' =>
    let (bytes, stops) := Escapes.ofArgument.expand ((← takeArgument).getD [])
    print (directive.string bytes)
    if stops then modify ({ · with stopped := true })
  | 'c' => print (directive.pad [((← takeArgument).getD []).headD 0])
  | 's' => print (directive.string ((← takeArgument).getD []))
  | 'd' | 'i' => print (directive.signed (← signedArgument))
  | 'o' | 'u' | 'x' | 'X' =>
    print (directive.unsigned (.ofNat letter.toNat) (← unsignedArgument))
  | 'e' | 'E' | 'f' | 'F' | 'g' | 'G' =>
    print (directive.fraction (.ofNat letter.toNat) (← fractionArgument))
  | _ => (Run.fail (written ++ said ": invalid directive") : Run Unit)

/-- A directive after its percent sign; what comes after it is left. -/
def directive (format : Bytes) : Printing Bytes := do
  let flags := format.takeWhile (said "#-+ 0").contains
  let (width, afterWidth) ← amount (format.drop flags.length)
  let (precision, rest) ←
    if afterWidth.head? = some Ascii.dot then
      let (precision, rest) ← amount (afterWidth.drop 1)
      pure (some (precision.getD 0), rest)
    else pure (none, afterWidth)
  match rest with
  | [] => (Run.fail (said "missing format character") : Run Bytes)
  | letter :: later =>
    let width := width.getD 0
    let flags := if width < 0 then Ascii.hyphen :: flags else flags
    let precision := precision.bind fun n ↦ if n < 0 then none else some n.toNat
    let written := 0x25 :: format.take (format.length - later.length)
    convert ⟨flags, width.natAbs, precision⟩ letter written
    return later

/-- Goes through the format once. -/
def once : Nat → Bytes → Printing Unit
  | 0, _ => return ()
  | fuel + 1, format => do
    let plain := format.takeWhile (· ≠ 0x25)
    print (Escapes.ofFormat.expand plain).1
    match format.drop plain.length with
    | [] => return ()
    | _ :: later =>
      if later.head? = some 0x25 then
        print [0x25]
        once fuel (later.drop 1)
      else
        let rest ← directive later
        if (← get).stopped then return () else once fuel rest

/-- Goes through the format while it takes arguments and there are any left. -/
def repeated (format : Bytes) : Nat → Printing Unit
  | 0 => return ()
  | fuel + 1 => do
    let before := (← get).arguments.length
    once (format.length + 1) format
    let progress ← get
    if progress.stopped || progress.arguments.isEmpty || progress.arguments.length = before then
      return ()
    else repeated format fuel

end Format

/-- Prints arguments in a format, and tells whether all of them fitted. -/
def Run.printFormatted (format : Bytes) (arguments : List Bytes) : Run Bool := do
  let (_, progress) ← (Format.repeated format (arguments.length + 1)).run { arguments := arguments }
  return !progress.failed

end ContainerLaunch.Rehearsal.Shell
