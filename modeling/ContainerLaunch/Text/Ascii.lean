import ContainerLaunch.Text.Basic

/-! # Bytes with a meaning

The bytes of ASCII characters that arguments, paths and lines are cut at, and the classes of ASCII
bytes.
-/

namespace ContainerLaunch.Ascii

def zero : UInt8 := 0x00

def tab : UInt8 := 0x09

def newline : UInt8 := 0x0A

def blank : UInt8 := 0x20

def doubleQuote : UInt8 := 0x22

def dollar : UInt8 := 0x24

def quote : UInt8 := 0x27

def hyphen : UInt8 := 0x2D

def dot : UInt8 := 0x2E

def slash : UInt8 := 0x2F

def colon : UInt8 := 0x3A

def equalsSign : UInt8 := 0x3D

def backslash : UInt8 := 0x5C

def underscore : UInt8 := 0x5F

def backquote : UInt8 := 0x60

def isDigit (b : UInt8) : Bool := 0x30 ≤ b && b ≤ 0x39

def isUpper (b : UInt8) : Bool := 0x41 ≤ b && b ≤ 0x5A

def isLower (b : UInt8) : Bool := 0x61 ≤ b && b ≤ 0x7A

def isLetter (b : UInt8) : Bool := isUpper b || isLower b

/-- A letter, a digit or an underscore. -/
def isWordByte (b : UInt8) : Bool := isLetter b || isDigit b || b == underscore

/-- White space of any kind. -/
def isSpace (b : UInt8) : Bool := b == blank || (0x09 ≤ b && b ≤ 0x0D)

def toLower (b : UInt8) : UInt8 := if isUpper b then b + 0x20 else b

def toUpper (b : UInt8) : UInt8 := if isLower b then b - 0x20 else b

/-- The value of a hexadecimal digit of either case. -/
def hexValue? (b : UInt8) : Option Nat :=
  if isDigit b then some (b.toNat - 0x30)
  else if 0x61 ≤ b && b ≤ 0x66 then some (b.toNat - 0x61 + 10)
  else if 0x41 ≤ b && b ≤ 0x46 then some (b.toNat - 0x41 + 10)
  else none

/-- The number some decimal digits make. -/
def number (digits : Bytes) : Nat := digits.foldl (fun n b ↦ n * 10 + (b.toNat - 0x30)) 0

/-- The number that bytes make which are decimal digits all of them. -/
def number? (bytes : Bytes) : Option Nat :=
  if !bytes.isEmpty && bytes.all isDigit then some (number bytes) else none

end ContainerLaunch.Ascii
