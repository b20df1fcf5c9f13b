import ContainerLaunch.Intake.Reader
import ContainerLaunch.Path
import ContainerLaunch.Text.ControlSequence
import ContainerLaunch.Text.Shown

/-! # Intake of the command line

Every argument is to be a value and to be kept as it is. That is declared once, and a reader of
command lines does the rest.
-/

namespace ContainerLaunch.Intake

/-- The option that was refused, and the name the program goes by. -/
structure Refusal where
  program : Text
  option : Text
  deriving DecidableEq, Repr

namespace Refusal

/-- Neither of the two can bring a control sequence into the message. -/
def message (refusal : Refusal) : Text :=
  let option := ControlSequence.strip refusal.option
  let program := ControlSequence.strip refusal.program
  "error: unexpected argument '--".toList ++ option ++
    "' found\n\n  tip: to pass '--".toList ++ option ++
    "' as a value, use '-- --".toList ++ option ++
    "'\n\nUsage: ".toList ++ program ++ " [ARGS]...\n".toList

end Refusal

/-- The program is called by the last name on its path where that is a text. -/
def programName (path : Bytes) : Text :=
  ((Path.lastName? path).bind Utf8.decode?).getD "launcher".toList

/-- No flags, since help and version are switched off, and values of any form. -/
def declaration : Declaration where
  flags := []
  allowsHyphens := true
  takesRest := true

/-- The arguments after the program's own name, as a reader takes them, or a refusal of the one that
it did not expect. -/
def acceptFrom (reader : Reader) (argv : List Bytes) : Except Refusal (List Bytes) :=
  (reader.read declaration argv.tail).mapError fun option ↦ ⟨programName (argv.headD []), option⟩

def accept (argv : List Bytes) : Except Refusal (List Bytes) := acceptFrom .standard argv

/-- How a log shows accepted arguments. -/
def shown (arguments : List Bytes) : Text :=
  Shown.record "Args" [Shown.field "args" (Shown.byteStrings arguments)]

end ContainerLaunch.Intake
