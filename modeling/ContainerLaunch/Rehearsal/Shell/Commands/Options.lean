import ContainerLaunch.Rehearsal.Shell.State

/-! # Options of the shell's own commands

An option is a letter after a hyphen. Letters may stand together, and one that has an argument takes
what is left of its word, or else the next word.
-/

namespace ContainerLaunch.Rehearsal.Shell

/-- The options in front of some arguments, with what comes after them. -/
structure CommandOptions where
  found : List (Char × Bytes)
  operands : List Bytes

namespace CommandOptions

def has (options : CommandOptions) (letter : Char) : Bool :=
  options.found.any (·.1 = letter)

end CommandOptions

namespace Run

/-- The letters of one word, and the arguments after it. -/
def wordOptions (plain withArgument : String) :
    Bytes → List Bytes → Run (List (Char × Bytes) × List Bytes)
  | [], later => return ([], later)
  | b :: rest, later => do
    let letter := Char.ofNat b.toNat
    if plain.toList.contains letter then
      let (others, later) ← wordOptions plain withArgument rest later
      return ((letter, []) :: others, later)
    else if withArgument.toList.contains letter then
      match rest, later with
      | _ :: _, _ => return ([(letter, rest)], later)
      | [], argument :: later => return ([(letter, argument)], later)
      | [], [] => fail (said "No arg for -" ++ [b] ++ said " option")
    else fail (said "Illegal option -" ++ [b])

/-- Reads the options of a command, of which some have arguments. -/
def optionsIn (plain withArgument : String) : Nat → List Bytes → Run CommandOptions
  | fuel + 1, argument :: later => do
    if argument = said "--" then return ⟨[], later⟩
    else if argument.head? ≠ some Ascii.hyphen || argument.length = 1 then
      return ⟨[], argument :: later⟩
    else
      let (found, later) ← wordOptions plain withArgument (argument.drop 1) later
      let others ← optionsIn plain withArgument fuel later
      return ⟨found ++ others.found, others.operands⟩
  | _, arguments => return ⟨[], arguments⟩

def options (plain withArgument : String) (arguments : List Bytes) : Run CommandOptions :=
  optionsIn plain withArgument (arguments.length + 1) arguments

end Run

end ContainerLaunch.Rehearsal.Shell
