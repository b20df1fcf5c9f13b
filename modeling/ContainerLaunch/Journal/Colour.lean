import ContainerLaunch.Text.Basic

/-! # Colours of a terminal

A terminal changes its colours at control sequences: an escape character, a bracket, a number and
the letter m. `paint` puts them around a text, `uncolour` leaves them out again.
-/

namespace ContainerLaunch.Journal

inductive Style where
  | plain
  | coloured
  deriving DecidableEq, Repr

def escape : Char := '\x1b'

def colourSequence (number : Nat) : Text :=
  [escape, '['] ++ Text.decimal number ++ ['m']

def paint (style : Style) (number : Nat) (text : Text) : Text :=
  match style with
  | .plain => text
  | .coloured => colourSequence number ++ text ++ colourSequence 0

/-- The length of the control sequence that a text begins with, zero when there is none. -/
def sequenceLength : Text → Nat
  | c :: bracket :: rest =>
    let digits := rest.takeWhile Char.isDigit
    if c = escape ∧ bracket = '[' ∧ digits ≠ [] ∧ (rest.drop digits.length).head? = some 'm' then
      digits.length + 3
    else 0
  | _ => 0

/-- Leaves out every control sequence. `skipped` characters of one are still to be left out. -/
def uncolourFrom : (skipped : Nat) → Text → Text
  | _, [] => []
  | skipped + 1, _ :: rest => uncolourFrom skipped rest
  | 0, c :: rest =>
    match sequenceLength (c :: rest) with
    | length + 1 => uncolourFrom length rest
    | 0 => c :: uncolourFrom 0 rest

def uncolour (text : Text) : Text := uncolourFrom 0 text

end ContainerLaunch.Journal
