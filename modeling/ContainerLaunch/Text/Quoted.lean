import ContainerLaunch.Text.Utf8
import ContainerLaunch.Text.Unprintable

/-! # Quoted texts

A quoted text shows any byte string on one line, between double quotes. Printable characters stand
for themselves, a quote and a backslash follow a backslash, unprintable characters are written by
number or by a letter, and a byte that encodes no character is written in hexadecimal.

`read` takes a quoted text apart again and returns what follows its closing quote.
-/

namespace ContainerLaunch.Quoted

open Utf8

def escapeChar (c : Char) : Text :=
  if c = '"' then ['\\', '"']
  else if c = '\\' then ['\\', '\\']
  else if c = '\n' then ['\\', 'n']
  else if c = '\r' then ['\\', 'r']
  else if c = '\t' then ['\\', 't']
  else if c = '\x00' then ['\\', '0']
  else if Text.isUnprintable c then
    ['\\', 'u', '\x7b'] ++ Nat.toDigits 16 c.toNat ++ ['\x7d']
  else [c]

def upperDigit (n : Nat) : Char := (Nat.digitChar n).toUpper

def escapeByte (b : UInt8) : Text :=
  ['\\', 'x', upperDigit (b.toNat / 16), upperDigit (b.toNat % 16)]

def escapePiece : Piece → Text
  | .char c => escapeChar c
  | .stray bytes => bytes.flatMap escapeByte

def write (bytes : Bytes) : Text :=
  ['"'] ++ (pieces bytes).flatMap escapePiece ++ ['"']

/-- The value of a hexadecimal digit of either case. -/
def digitValue? (c : Char) : Option Nat :=
  if '0' ≤ c && c ≤ '9' then some (c.toNat - '0'.toNat)
  else if 'a' ≤ c && c ≤ 'f' then some (c.toNat - 'a'.toNat + 10)
  else if 'A' ≤ c && c ≤ 'F' then some (c.toNat - 'A'.toNat + 10)
  else none

/-- Where in a quoted text its reader stands. -/
inductive Place where
  /-- Between two escapes or characters. -/
  | between
  /-- After a backslash. -/
  | escape
  /-- Before the first digit of a byte. -/
  | byte
  /-- Before the second digit of a byte. -/
  | byteAfter (high : Nat)
  /-- Before the brace that opens the number of a character. -/
  | number
  /-- Among the digits of that number. -/
  | digits (value : Nat)

/-- The bytes up to the closing quote, and what follows it. -/
def readFrom : Place → Text → Option (Bytes × Text)
  | _, [] => none
  | .between, c :: rest =>
    if c = '"' then some ([], rest)
    else if c = '\\' then readFrom .escape rest
    else give (encodeChar c) (readFrom .between rest)
  | .escape, c :: rest =>
    if c = 'x' then readFrom .byte rest
    else if c = 'u' then readFrom .number rest
    else if c = 'n' then give [10] (readFrom .between rest)
    else if c = 'r' then give [13] (readFrom .between rest)
    else if c = 't' then give [9] (readFrom .between rest)
    else if c = '0' then give [0] (readFrom .between rest)
    else give (encodeChar c) (readFrom .between rest)
  | .byte, c :: rest => (digitValue? c).bind fun high ↦ readFrom (.byteAfter high) rest
  | .byteAfter high, c :: rest =>
    (digitValue? c).bind fun low ↦ give [.ofNat (high * 16 + low)] (readFrom .between rest)
  | .number, c :: rest => if c = '\x7b' then readFrom (.digits 0) rest else none
  | .digits value, c :: rest =>
    if c = '\x7d' then give (encodeChar (.ofNat value)) (readFrom .between rest)
    else (digitValue? c).bind fun digit ↦ readFrom (.digits (value * 16 + digit)) rest
where
  /-- Puts bytes before those still to be read. -/
  give (bytes : Bytes) (later : Option (Bytes × Text)) : Option (Bytes × Text) :=
    later.map fun (others, rest) ↦ (bytes ++ others, rest)

def read : Text → Option (Bytes × Text)
  | c :: rest => if c = '"' then readFrom .between rest else none
  | [] => none

end ContainerLaunch.Quoted
