import ContainerLaunch.Text.Ascii
import ContainerLaunch.Text.Shown

/-! # Commands

A program and its arguments, byte for byte as they are handed over, and the line that announces
them.
-/

namespace ContainerLaunch

@[ext]
structure Command where
  program : Bytes
  arguments : List Bytes
  deriving DecidableEq, Repr

namespace Command

def vector (command : Command) : List Bytes := command.program :: command.arguments

/-- The parts of the command as texts with a blank between every two, and no quoting. -/
def line (command : Command) : Text :=
  Text.join [' '] (command.vector.map Utf8.decodeLossy)

/-- A zero byte ends a string of the system, so no part of a command that starts may hold one. -/
def holdsZero (command : Command) : Bool :=
  command.vector.any (·.contains Ascii.zero)

def shown (command : Command) : Text :=
  Shown.record "ExecCommand"
    [Shown.field "program" (Quoted.write command.program),
      Shown.field "args" (Shown.byteStrings command.arguments)]

end Command

end ContainerLaunch
