import ContainerLaunch.Rehearsal.Escapes

/-! # Echo

The tool that prints its arguments with a blank between every two.
-/

namespace ContainerLaunch.Rehearsal

/-- Known letters after a hyphen; they are options only at the front. -/
def isEchoOption : Bytes → Bool
  | first :: letters =>
    first == Ascii.hyphen && !letters.isEmpty && letters.all (Utf8.ofString "neE").contains
  | [] => false

/-- What is printed. Of the two letters about escapes the last one counts. -/
def echo (arguments : List Bytes) : Bytes :=
  let letters := (arguments.takeWhile isEchoOption).flatten
  let joined := [Ascii.blank].intercalate (arguments.dropWhile isEchoOption)
  let expands := (letters.filter (Utf8.ofString "eE").contains).getLast? == some 0x65
  let (said, stopped) := if expands then Escapes.withHexadecimal.expand joined else (joined, false)
  if stopped || letters.contains 0x6E then said else said ++ [Ascii.newline]

end ContainerLaunch.Rehearsal
