import ContainerLaunch.Text.Ascii
import ContainerLaunch.Text.Utf8

/-! # Quotations in the messages of tools

How tools name a byte string in their messages. `shellWord` writes it so that a shell reads it back,
without quotes where it needs none; `phrase` puts it between single quotes whatever it is.
-/

namespace ContainerLaunch.Rehearsal.Quotation

def isPrintable (b : UInt8) : Bool := 0x20 ≤ b && b < 0x7F

/-- The letters that stand for control characters after a backslash. -/
def letters : List (UInt8 × UInt8) :=
  [(0x07, 0x61), (0x08, 0x62), (0x09, 0x74), (0x0A, 0x6E), (0x0B, 0x76), (0x0C, 0x66), (0x0D, 0x72)]

def octal (b : UInt8) : Bytes := [0x30 + b / 64, 0x30 + b / 8 % 8, 0x30 + b % 8]

/-- A byte that is not printable, by a letter or by its number. -/
def escape (b : UInt8) : Bytes :=
  Ascii.backslash :: match letters.lookup b with
    | some letter => [letter]
    | none => octal b

def phrase (bytes : Bytes) : Bytes :=
  [Ascii.quote] ++ bytes.flatMap written ++ [Ascii.quote]
where
  written (b : UInt8) : Bytes :=
    if b = Ascii.quote ∨ b = Ascii.backslash then [Ascii.backslash, b]
    else if isPrintable b then [b]
    else escape b

/-- Bytes that mean something to a shell wherever they stand, and the colon, which ends the name in
a message. -/
def special : Bytes := Utf8.ofString " !\"$&'()*:;<=>?[\\^\x60|"

def needsQuotes (bytes : Bytes) : Bool :=
  bytes.isEmpty || bytes.any (fun b ↦ !isPrintable b || special.contains b) ||
    [0x23, 0x7E].contains (bytes.headD 0) || [[0x7B], [0x7D]].contains bytes

/-- Whether a byte stands for itself between double quotes as well. -/
def isPlain (b : UInt8) : Bool :=
  Ascii.isLetter b || Ascii.isDigit b || (Utf8.ofString " %'+,-./:@]_").contains b

/-- Closes the quotes of bytes that are not printable, if they are open. -/
def closing (opened : Bool) : Bytes := if opened then [Ascii.quote, Ascii.quote] else []

/-- What is written for a byte between single quotes. Bytes that are not printable stand in quotes
of their own; whether these are open is told before and after. -/
def step (opened : Bool) (b : UInt8) : Bytes × Bool :=
  if b = Ascii.quote then
    (closing opened ++ [Ascii.quote, Ascii.backslash, Ascii.quote, Ascii.quote], false)
  else if isPrintable b then (closing opened ++ [b], false)
  else ((if opened then [] else [Ascii.quote, Ascii.dollar, Ascii.quote]) ++ escape b, true)

/-- The bytes between single quotes, and whether quotes are left open. -/
def between (opened : Bool) (bytes : Bytes) : Bytes × Bool :=
  let (written, opened) := bytes.foldl (fun (written, opened) b ↦
    let (piece, opened) := step opened b
    (piece :: written, opened)) ([], opened)
  (written.reverse.flatten, opened)

/-- A byte string with a quote in it stands between double quotes if it can; otherwise it is gone
through twice, and the second time begins as the first one ended. -/
def shellWord (bytes : Bytes) : Bytes :=
  if !needsQuotes bytes then bytes
  else if !bytes.contains Ascii.quote then
    [Ascii.quote] ++ (between false bytes).1 ++ [Ascii.quote]
  else if bytes.all isPlain then [Ascii.doubleQuote] ++ bytes ++ [Ascii.doubleQuote]
  else [Ascii.quote] ++ (between (between false bytes).2 bytes).1 ++ [Ascii.quote]

end ContainerLaunch.Rehearsal.Quotation
