import ContainerLaunch.Text.Utf8

/-! # Control sequences

Among the characters of a text a terminal takes some for commands: the control characters, and the
sequences that an escape character opens. `strip` leaves out all of them but white space, so that a
text from outside cannot act on the terminal it is shown on.
-/

namespace ContainerLaunch.ControlSequence

/-- What the characters read so far have opened. -/
inductive Mode where
  | text
  /-- Nothing but the escape character itself. -/
  | escape
  /-- A short sequence of more than one character. -/
  | short
  /-- A sequence with parameters, which its first letter closes. -/
  | command
  /-- The parameters of a string for a device, up to the letter that opens the string. -/
  | header
  /-- A string for a device. -/
  | string
  /-- A string for the window around the text, which a bell closes as well. -/
  | title
  deriving DecidableEq, Repr

def isBetween (first last : Nat) (c : Char) : Bool := first ≤ c.toNat && c.toNat ≤ last

/-- A tab, a newline, a form feed or a carriage return. -/
def isSpacing (c : Char) : Bool := c == '\t' || c == '\n' || c == '\x0c' || c == '\r'

/-- Whether a character that belongs to no sequence is seen. -/
def isSeen (c : Char) : Bool := isSpacing c || (0x20 ≤ c.toNat && c.toNat != 0x7F)

/-- One byte that closes a string is looked for in the encodings of characters as well. -/
def closesString (c : Char) : Bool := 0x80 ≤ c.toNat && (Utf8.encodeChar c).contains 0x9C

def afterEscape (c : Char) : Mode :=
  if isBetween 0x20 0x2F c then .short
  else if c = '[' then .command
  else if c = ']' then .title
  else if c = 'P' then .header
  else if c = 'X' ∨ c = '^' ∨ c = '_' then .string
  else if isBetween 0x30 0x7E c then .text
  else .escape

/-- The mode after a character that opens no sequence and is no white space within one. -/
def advance (mode : Mode) (c : Char) : Mode :=
  match mode with
  | .text => .text
  | .escape => afterEscape c
  | .short => if isBetween 0x30 0x7E c then .text else .short
  | .command => if isBetween 0x40 0x7E c then .text else .command
  | .header => if isBetween 0x40 0x7E c then .string else .header
  | .string => if closesString c then .text else .string
  | .title => if c = '\x07' then .text else .title

/-- White space is no part of a sequence other than a string. -/
def isInterrupted : Mode → Bool
  | .text | .escape | .short | .command => true
  | .header | .string | .title => false

/-- The mode after a character, and whether the character is seen. -/
def read (mode : Mode) (c : Char) : Mode × Bool :=
  if c = '\x1b' then (.escape, false)
  else if c = '\x18' ∨ c = '\x1a' then (.text, false)
  else if isSpacing c && isInterrupted mode then (.text, true)
  else (advance mode c, mode == .text && isSeen c)

/-- The characters of a text that a terminal shows. -/
def strip (text : Text) : Text :=
  let (_, seen) := text.foldl (fun (mode, seen) c ↦
    let (next, shown) := read mode c
    (next, if shown then c :: seen else seen)) (Mode.text, [])
  seen.reverse

end ContainerLaunch.ControlSequence
