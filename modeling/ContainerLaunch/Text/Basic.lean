/-! # Byte strings and texts

Arguments, program names, environment values and captured output are byte strings of any content.
What is printed for a reader is a text, a list of Unicode characters.
-/

namespace ContainerLaunch

/-- Any bytes at all: a string of the operating system carries no encoding. -/
abbrev Bytes := List UInt8

abbrev Text := List Char

namespace Text

def decimal (n : Nat) : Text := Nat.toDigits 10 n

theorem isDigit_of_mem_decimal {n : Nat} {c : Char} (h : c ∈ decimal n) : c.isDigit = true :=
  Nat.isDigit_of_mem_toDigits (by decide) (by decide) h

theorem notMem_decimal {c : Char} (h : c.isDigit = false) (n : Nat) : c ∉ decimal n := fun hc ↦
  Bool.false_ne_true (h.symm.trans (isDigit_of_mem_decimal hc))

/-- A number below zero has a minus sign before its digits. -/
def integer (n : Int) : Text :=
  if n < 0 then '-' :: decimal n.natAbs else decimal n.natAbs

/-- The parts in order, with `separator` between every two of them. -/
def join (separator : Text) (parts : List Text) : Text :=
  separator.intercalate parts

end Text

/-- The places between separators; one more than there are separators, and some may be empty. -/
def splitAtEvery {α : Type} [DecidableEq α] (separator : α) (items : List α) : List (List α) :=
  items.foldr (fun item parts ↦
    if item = separator then [] :: parts
    else match parts with
      | [] => [[item]]
      | part :: others => (item :: part) :: others) [[]]

end ContainerLaunch
