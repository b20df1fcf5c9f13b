import ContainerLaunch.Text.Ascii
import ContainerLaunch.Text.Utf8

/-! # Escapes in the arguments of tools

Tools that print let control characters be written with a backslash and a letter or an octal
number. In what else they read they differ.
-/

namespace ContainerLaunch.Rehearsal

/-- What a tool reads besides letters and octal numbers of three digits. -/
structure Escapes where
  /-- A zero may stand before the three digits. -/
  leadingZero : Bool
  /-- The letter `c` ends all output. -/
  stops : Bool
  /-- After the letter `x` come one or two hexadecimal digits. -/
  hexadecimal : Bool

namespace Escapes

/-- The escapes of printed arguments. -/
def ofArgument : Escapes := ⟨true, true, false⟩

def withHexadecimal : Escapes := ⟨true, true, true⟩

/-- The escapes of a format that arguments are put into. -/
def ofFormat : Escapes := ⟨false, false, false⟩

def octalValue? (b : UInt8) : Option Nat :=
  if 0x30 ≤ b && b ≤ 0x37 then some (b.toNat - 0x30) else none

def letters : List (Char × UInt8) :=
  [('\\', 92), ('a', 7), ('b', 8), ('e', 27), ('f', 12), ('n', 10), ('r', 13), ('t', 9),
    ('v', 11)]

/-- The byte a letter after a backslash stands for. -/
def letter? (b : UInt8) : Option UInt8 :=
  letters.findSome? fun (name, value) ↦ if name.toNat = b.toNat then some value else none

inductive Place where
  | plain
  | escape
  /-- Within a number that may have `left` more digits. -/
  | number (base value left : Nat)
  /-- Before the first digit of a hexadecimal number. -/
  | hexadecimal

structure Expansion where
  /-- The expanded bytes, the latest first. -/
  found : Bytes
  place : Place
  stopped : Bool

def digitValue? (base : Nat) (b : UInt8) : Option Nat :=
  if base = 8 then octalValue? b else Ascii.hexValue? b

namespace Expansion

def give (expansion : Expansion) (bytes : Bytes) : Expansion :=
  ⟨bytes.reverse ++ expansion.found, .plain, expansion.stopped⟩

def moveTo (expansion : Expansion) (place : Place) : Expansion :=
  { expansion with place := place }

/-- A byte outside a number. -/
def feedPlain (expansion : Expansion) (b : UInt8) : Expansion :=
  if b = Ascii.backslash then expansion.moveTo .escape else expansion.give [b]

/-- A byte after a backslash. -/
def feedEscape (escapes : Escapes) (expansion : Expansion) (b : UInt8) : Expansion :=
  if b = 0x63 ∧ escapes.stops then { expansion with stopped := true, place := .plain }
  else if b = 0x78 ∧ escapes.hexadecimal then expansion.moveTo .hexadecimal
  else match octalValue? b, letter? b with
    | some 0, _ => expansion.moveTo (.number 8 0 (if escapes.leadingZero then 3 else 2))
    | some value, _ => expansion.moveTo (.number 8 value 2)
    | none, some value => expansion.give [value]
    | none, none => expansion.give [Ascii.backslash, b]

def feed (escapes : Escapes) (expansion : Expansion) (b : UInt8) : Expansion :=
  if expansion.stopped then expansion
  else match expansion.place with
    | .plain => expansion.feedPlain b
    | .escape => expansion.feedEscape escapes b
    | .number base value left =>
      match digitValue? base b, left with
      | some digit, left + 1 => expansion.moveTo (.number base (value * base + digit) left)
      | _, _ => (expansion.give [.ofNat value]).feedPlain b
    | .hexadecimal =>
      match Ascii.hexValue? b with
      | some digit => expansion.moveTo (.number 16 digit 1)
      | none => (expansion.give (Utf8.ofString "\\x")).feedPlain b

def finish (expansion : Expansion) : Expansion :=
  match expansion.place with
  | .plain => expansion
  | .escape => expansion.give [Ascii.backslash]
  | .number _ value _ => expansion.give [.ofNat value]
  | .hexadecimal => expansion.give (Utf8.ofString "\\x")

end Expansion

/-- The bytes with all escapes expanded, and whether output ends with them. -/
def expand (escapes : Escapes) (bytes : Bytes) : Bytes × Bool :=
  let expansion := (bytes.foldl (Expansion.feed escapes) ⟨[], .plain, false⟩).finish
  (expansion.found.reverse, expansion.stopped)

end Escapes

end ContainerLaunch.Rehearsal
