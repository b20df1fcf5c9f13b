import ContainerLaunch.Text.Ascii
import ContainerLaunch.Text.Utf8

/-! # Readers of command lines

A program declares what its command line holds, and a reader takes the arguments one by one. The
launcher only declares; that a reader does with each argument what its manual says is for the reader
to answer for.
-/

namespace ContainerLaunch.Intake

/-- A command line with any number of values in one row, and flags that may stand before them. -/
structure Declaration where
  /-- The flags of the program, each as it is written. -/
  flags : List Bytes
  /-- A value may begin with a hyphen. -/
  allowsHyphens : Bool
  /-- All that follows the first value is a value too. -/
  takesRest : Bool

/-! ## Kinds of arguments -/

/-- What ends the flags; after it there are values only. -/
def hyphens : Bytes := [Ascii.hyphen, Ascii.hyphen]

/-- What stands between the leading hyphens and the first equals sign. -/
def optionName (argument : Bytes) : Bytes :=
  (argument.drop hyphens.length).takeWhile (· != Ascii.equalsSign)

/-- Longer than `--` and begins with it. -/
def isOption (argument : Bytes) : Bool :=
  hyphens.isPrefixOf argument && argument != hyphens

/-- An option whose name is no text, so that no program could have it. -/
def isNameless (argument : Bytes) : Bool :=
  isOption argument && !Utf8.isValid (optionName argument)

/-- A hyphen by itself is a word like any other. -/
def hasHyphen (argument : Bytes) : Bool :=
  argument.head? == some Ascii.hyphen && argument != [Ascii.hyphen]

/-- Whether the argument can be a value where flags are still looked for. -/
def Declaration.isValue (declaration : Declaration) (argument : Bytes) : Bool :=
  !hasHyphen argument ||
    declaration.allowsHyphens && argument != hyphens && !isNameless argument &&
      !declaration.flags.contains argument

/-! ## Readers -/

structure Reader where
  State : Type
  /-- Before the first argument. -/
  start : State
  /-- The state after one argument, or the name of an argument that was not expected. -/
  take : Declaration → State → Bytes → Except Text State
  /-- The values taken so far. -/
  values : State → List Bytes
  /-- Whether every argument to come is a value. -/
  valuesOnly : State → Bool

namespace Reader

/-- The values among the arguments, or the name of the first one that was not expected. -/
def read (reader : Reader) (declaration : Declaration) (arguments : List Bytes) :
    Except Text (List Bytes) :=
  (arguments.foldlM (reader.take declaration) reader.start).map reader.values

/-- The row of values as far as it has been read. -/
structure Row where
  values : List Bytes
  valuesOnly : Bool

/-- The reader that command lines are read with. -/
def standard : Reader where
  State := Row
  start := ⟨[], false⟩
  take declaration row argument :=
    if row.valuesOnly then .ok { row with values := row.values ++ [argument] }
    else if argument = hyphens then .ok { row with valuesOnly := true }
    else if declaration.isValue argument then
      .ok ⟨row.values ++ [argument], declaration.takesRest⟩
    else if declaration.flags.contains argument && !isNameless argument then .ok row
    else .error (Utf8.decodeLossy (optionName argument))
  values := Row.values
  valuesOnly := Row.valuesOnly

end Reader

end ContainerLaunch.Intake
