import ContainerLaunch.Text.Basic

/-! # UTF-8

`encode` writes characters as bytes. `pieces` reads any bytes back: it cuts them into the encodings
of single characters and, where the bytes are no encoding, into stray pieces, each of them as long
as it can be while it is still the beginning of some encoding, or else one byte.

The reader takes one byte at a time and keeps the bytes of an unfinished encoding pending, so what
it does at a byte depends on at most three bytes before it.
-/

namespace ContainerLaunch.Utf8

/-- One to four bytes: the first tells their number, each further one carries six bits. -/
def encodeChar (c : Char) : Bytes :=
  let n := c.toNat
  if n < 0x80 then
    [.ofNat n]
  else if n < 0x800 then
    [.ofNat (0xC0 + n / 0x40), .ofNat (0x80 + n % 0x40)]
  else if n < 0x10000 then
    [.ofNat (0xE0 + n / 0x1000), .ofNat (0x80 + n / 0x40 % 0x40), .ofNat (0x80 + n % 0x40)]
  else
    [.ofNat (0xF0 + n / 0x40000), .ofNat (0x80 + n / 0x1000 % 0x40),
      .ofNat (0x80 + n / 0x40 % 0x40), .ofNat (0x80 + n % 0x40)]

def encode (text : Text) : Bytes := text.flatMap encodeChar

def ofString (string : String) : Bytes := encode string.toList

/-- What a short run of bytes is to the reader. -/
inductive Form where
  /-- Exactly the encoding of this character. -/
  | whole (c : Char)
  /-- The beginning of some encoding, with more bytes to come. -/
  | opening
  /-- No beginning of any encoding. -/
  | broken
  deriving DecidableEq, Repr

def isTail (b : Nat) : Bool := 0x80 ≤ b && b ≤ 0xBF

/-- Whether `b` may follow the first byte `lead`: four leads narrow the range, so that nothing is
written longer than needed, surrogates are left out, and no character lies above U+10FFFF. -/
def isTailOf (lead b : Nat) : Bool :=
  isTail b && (lead != 0xE0 || 0xA0 ≤ b) && (lead != 0xED || b ≤ 0x9F) &&
    (lead != 0xF0 || 0x90 ≤ b) && (lead != 0xF4 || b ≤ 0x8F)

def classify : Bytes → Form
  | [a] =>
    let a := a.toNat
    if a < 0x80 then .whole (.ofNat a)
    else if 0xC2 ≤ a && a ≤ 0xF4 then .opening
    else .broken
  | [a, b] =>
    let (a, b) := (a.toNat, b.toNat)
    if 0xC2 ≤ a && a ≤ 0xF4 && isTailOf a b then
      if a < 0xE0 then .whole (.ofNat ((a - 0xC0) * 0x40 + (b - 0x80))) else .opening
    else .broken
  | [a, b, c] =>
    let (a, b, c) := (a.toNat, b.toNat, c.toNat)
    if 0xE0 ≤ a && a ≤ 0xF4 && isTailOf a b && isTail c then
      if a < 0xF0 then
        .whole (.ofNat ((a - 0xE0) * 0x1000 + (b - 0x80) * 0x40 + (c - 0x80)))
      else .opening
    else .broken
  | [a, b, c, d] =>
    let (a, b, c, d) := (a.toNat, b.toNat, c.toNat, d.toNat)
    if 0xF0 ≤ a && a ≤ 0xF4 && isTailOf a b && isTail c && isTail d then
      .whole (.ofNat
        ((a - 0xF0) * 0x40000 + (b - 0x80) * 0x1000 + (c - 0x80) * 0x40 + (d - 0x80)))
    else .broken
  | _ => .broken

inductive Piece where
  | char (c : Char)
  /-- Bytes that encode no character. -/
  | stray (bytes : Bytes)
  deriving DecidableEq, Repr

namespace Piece

def bytes : Piece → Bytes
  | char c => encodeChar c
  | stray bytes => bytes

/-- A stray piece is shown as one replacement character, however many bytes it has. -/
def shown : Piece → Char
  | char c => c
  | stray _ => '\ufffd'

def isChar : Piece → Bool
  | char _ => true
  | stray _ => false

end Piece

/-- The pieces that end before or at the byte `b`, and the bytes then pending. -/
def advance (pending : Bytes) (b : UInt8) : List Piece × Bytes :=
  match classify (pending ++ [b]) with
  | .whole c => ([.char c], [])
  | .opening => ([], pending ++ [b])
  | .broken =>
    let cut := if pending.isEmpty then [] else [.stray pending]
    match classify [b] with
    | .whole c => (cut ++ [.char c], [])
    | .opening => (cut, [b])
    | .broken => (cut ++ [.stray [b]], [])

/-- The state of the reader between two bytes. -/
structure Reader where
  /-- The finished pieces, the latest first. -/
  found : List Piece
  pending : Bytes

namespace Reader

def feed (reader : Reader) (b : UInt8) : Reader :=
  let (finished, pending) := advance reader.pending b
  ⟨finished.reverse ++ reader.found, pending⟩

/-- At the end of the bytes an unfinished encoding is a stray piece. -/
def finish (reader : Reader) : List Piece :=
  let last := if reader.pending.isEmpty then [] else [Piece.stray reader.pending]
  (last ++ reader.found).reverse

end Reader

def pieces (bytes : Bytes) : List Piece :=
  (bytes.foldl Reader.feed ⟨[], []⟩).finish

/-- A text for any bytes, with a replacement character for each stray piece. -/
def decodeLossy (bytes : Bytes) : Text :=
  (pieces bytes).map Piece.shown

def isValid (bytes : Bytes) : Bool :=
  (pieces bytes).all Piece.isChar

def decode? (bytes : Bytes) : Option Text :=
  if isValid bytes then some (decodeLossy bytes) else none

end ContainerLaunch.Utf8
