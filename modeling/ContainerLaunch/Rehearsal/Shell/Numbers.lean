import ContainerLaunch.Text.Ascii

/-! # Numbers in scripts

How the shell reads numbers: in arithmetic with a base told by the first digits, and as arguments in
decimal. A number that is too large is taken for the largest one.
-/

namespace ContainerLaunch.Rehearsal.Shell

namespace Numbers

def largest : Nat := 0x7FFFFFFFFFFFFFFF

def digitBelow (base : Nat) (b : UInt8) : Option Nat := (Ascii.hexValue? b).filter (· < base)

/-- The digits of a base in front, as a number, and what comes after them. -/
def digits (base : Nat) (bytes : Bytes) : Nat × Bytes :=
  let found := bytes.takeWhile fun b ↦ (digitBelow base b).isSome
  (found.foldl (fun n b ↦ n * base + (digitBelow base b).getD 0) 0, bytes.drop found.length)

def startsWithDigit (base : Nat) (bytes : Bytes) : Bool :=
  bytes.head?.any fun b ↦ (digitBelow base b).isSome

/-- A number without a sign: after a zero and a letter in base sixteen or two, after a zero in base
eight. Without any digit nothing is taken. -/
def natural (bytes : Bytes) : Option (Nat × Bytes) :=
  match bytes with
  | 0x30 :: letter :: later =>
    if Ascii.toLower letter = 0x78 && startsWithDigit 16 later then some (digits 16 later)
    else if Ascii.toLower letter = 0x62 && startsWithDigit 2 later then some (digits 2 later)
    else some (digits 8 bytes)
  | _ =>
    if startsWithDigit 10 bytes then
      some (digits (if bytes.head? = some 0x30 then 8 else 10) bytes)
    else none

/-- A number with blanks and a sign before it, whether it is too large, and what comes after it. -/
def signed (natural : Bytes → Option (Nat × Bytes)) (bytes : Bytes) :
    Option (Int × Bool × Bytes) :=
  let bytes := bytes.dropWhile Ascii.isSpace
  let isNegative := bytes.head? = some Ascii.hyphen
  let bytes := if isNegative || bytes.head? = some 0x2B then bytes.drop 1 else bytes
  (natural bytes).map fun (n, rest) ↦
    if isNegative then
      if n > largest + 1 then (-(largest + 1 : Nat), true, rest) else (-n, false, rest)
    else if n > largest then (largest, true, rest) else (n, false, rest)

/-- The value of a variable in arithmetic; nothing counts as zero. -/
def ofValue? (bytes : Bytes) : Option Int :=
  match signed natural bytes with
  | some (n, isLarge, rest) => if isLarge || !rest.all Ascii.isSpace then none else some n
  | none => if bytes.all Ascii.isSpace then some 0 else none

def decimalDigits (bytes : Bytes) : Option (Nat × Bytes) :=
  if startsWithDigit 10 bytes then some (digits 10 bytes) else none

/-- A whole number in decimal. -/
def integer? (bytes : Bytes) : Option Int :=
  match signed decimalDigits bytes with
  | some (n, isLarge, rest) => if isLarge || !rest.all Ascii.isSpace then none else some n
  | none => none

/-- A number that counts something, which is neither negative nor very large. -/
def count? (bytes : Bytes) : Option Nat :=
  match integer? bytes with
  | some n => if 0 ≤ n && n < 0x80000000 then some n.toNat else none
  | none => none

end Numbers

end ContainerLaunch.Rehearsal.Shell
