import ContainerLaunch.Rehearsal.Shell.State

/-! # Fractions

Numbers with a point, which are read as binary fractions of 53 digits and written in decimal, with a
given number of places or of digits. Where two decimals are equally near, the even one is written.
-/

namespace ContainerLaunch.Rehearsal.Shell

/-- A number with a point. -/
inductive Fraction where
  | finite (negative : Bool) (numerator denominator : Nat)
  | infinite (negative : Bool)
  | undefined (negative : Bool)

namespace Fraction

/-- The value of a binary fraction. -/
def ofFloat (negative : Bool) (float : Float) : Fraction :=
  let bits := float.toBits.toNat
  let exponent := bits / Nat.pow 2 52 % Nat.pow 2 11
  let digits := bits % Nat.pow 2 52
  if exponent = Nat.pow 2 11 - 1 then .infinite negative
  else
    let mantissa := if exponent = 0 then digits else digits + Nat.pow 2 52
    let shift := max exponent 1
    if shift ≥ 1075 then .finite negative (mantissa * Nat.pow 2 (shift - 1075)) 1
    else .finite negative mantissa (Nat.pow 2 (1075 - shift))

/-- The decimal digits before and after a point, the places after the point, and what follows. -/
def decimal? (bytes : Bytes) : Option (Nat × Nat × Bytes) :=
  let whole := bytes.takeWhile Ascii.isDigit
  let later := bytes.drop whole.length
  let places := if later.head? = some Ascii.dot then (later.drop 1).takeWhile Ascii.isDigit else []
  if whole.isEmpty && places.isEmpty then none
  else
    let point := if later.head? = some Ascii.dot then 1 else 0
    some (Ascii.number (whole ++ places), places.length, later.drop (point + places.length))

/-- An exponent after the letter for it. -/
def exponent (bytes : Bytes) : Int × Bytes :=
  match bytes with
  | letter :: later =>
    let isNegative := later.head? = some Ascii.hyphen
    let unsigned := if isNegative || later.head? = some 0x2B then later.drop 1 else later
    let digits := unsigned.takeWhile Ascii.isDigit
    if Ascii.toLower letter ≠ 0x65 || digits.isEmpty then (0, bytes)
    else
      let n : Int := min (Ascii.number digits) 100000
      (if isNegative then -n else n, unsigned.drop digits.length)
  | [] => (0, [])

/-- A number in front of a byte string, whether it is out of range, and what comes after it. -/
def unsigned? (negative : Bool) (bytes : Bytes) : Option (Fraction × Bool × Bytes) :=
  let lower := bytes.map Ascii.toLower
  if (said "infinity").isPrefixOf lower then some (.infinite negative, false, bytes.drop 8)
  else if (said "inf").isPrefixOf lower then some (.infinite negative, false, bytes.drop 3)
  else if (said "nan").isPrefixOf lower then some (.undefined negative, false, bytes.drop 3)
  else if (said "0x").isPrefixOf lower && Numbers.startsWithDigit 16 (bytes.drop 2) then
    let (n, rest) := Numbers.digits 16 (bytes.drop 2)
    some (ofFloat negative (.ofNat n), false, rest)
  else
    (decimal? bytes).map fun (digits, places, rest) ↦
      let (exponent, rest) := exponent rest
      let power := exponent - places
      let float := Float.ofScientific digits (power < 0) power.natAbs
      let isLost := digits ≠ 0 && (float == 0 || float.isInf || float < 2.2250738585072014e-308)
      (ofFloat negative float, isLost, rest)

/-- A number with blanks and a sign before it. -/
def read? (bytes : Bytes) : Option (Fraction × Bool × Bytes) :=
  let bytes := bytes.dropWhile Ascii.isSpace
  let isNegative := bytes.head? = some Ascii.hyphen
  unsigned? isNegative
    (if isNegative || bytes.head? = some 0x2B then bytes.drop 1 else bytes)

/-- The nearest whole number, the even one of two. -/
def rounded (numerator denominator : Nat) : Nat :=
  let quotient := numerator / denominator
  let twice := 2 * (numerator % denominator)
  if twice > denominator || (twice = denominator && quotient % 2 = 1) then quotient + 1
  else quotient

def digits (n : Nat) : Bytes := Utf8.encode (Text.decimal n)

def zeros (count : Nat) : Bytes := List.replicate count 0x30

/-- Digits with a point before the last ones. -/
def withPoint (places : Nat) (alternate : Bool) (n : Nat) : Bytes :=
  let written := digits n
  let padded := zeros (places + 1 - written.length) ++ written
  let whole := padded.take (padded.length - places)
  let point := if places > 0 || alternate then [Ascii.dot] else []
  whole ++ point ++ padded.drop whole.length

/-- A number with so many places after the point. -/
def positional (places : Nat) (alternate : Bool) (numerator denominator : Nat) : Bytes :=
  withPoint places alternate (rounded (numerator * Nat.pow 10 places) denominator)

/-- The number times a power of ten, rounded. -/
def scaled (numerator denominator : Nat) (power : Int) : Nat :=
  if power ≥ 0 then rounded (numerator * Nat.pow 10 power.toNat) denominator
  else rounded numerator (denominator * Nat.pow 10 power.natAbs)

/-- The power of ten of the first digit. -/
def magnitude (numerator denominator : Nat) : Int :=
  if numerator = 0 then 0
  else if numerator ≥ denominator then (digits (numerator / denominator)).length - 1
  else
    let found := (List.range 400).find? fun k ↦ numerator * Nat.pow 10 k ≥ denominator
    Int.neg (found.getD 0 : Nat)

/-- The first digits of a number as a whole number, and the power of ten of the first one. -/
def leadingDigits (count : Nat) (numerator denominator : Nat) : Nat × Int :=
  let power := magnitude numerator denominator
  let found := scaled numerator denominator (count - 1 - power)
  if found ≥ Nat.pow 10 count then (found / 10, power + 1) else (found, power)

/-- A number with one digit before the point and so many after it. -/
def scientific (places : Nat) (alternate : Bool) (numerator denominator : Nat) : Bytes :=
  let (found, power) := leadingDigits (places + 1) numerator denominator
  let written := digits power.natAbs
  withPoint places alternate found ++ [0x65, if power < 0 then Ascii.hyphen else 0x2B] ++
    zeros (2 - written.length) ++ written

/-- Takes off zeros at the end of the places, and the point if no place is left. -/
def withoutZeros (written : Bytes) : Bytes :=
  let mantissa := written.takeWhile (· ≠ 0x65)
  let power := written.drop mantissa.length
  if mantissa.contains Ascii.dot then
    let left := mantissa.reverse.dropWhile (· = 0x30)
    let left := if left.head? = some Ascii.dot then left.drop 1 else left
    left.reverse ++ power
  else written

/-- A number with so many digits, in the shorter one of both ways. -/
def general (precision : Nat) (alternate : Bool) (numerator denominator : Nat) : Bytes :=
  let count := max precision 1
  let (_, power) := leadingDigits count numerator denominator
  let written :=
    if -4 ≤ power && power < count then
      positional (count - 1 - power : Int).toNat alternate numerator denominator
    else scientific (count - 1) alternate numerator denominator
  if alternate then written else withoutZeros written

end Fraction

end ContainerLaunch.Rehearsal.Shell
