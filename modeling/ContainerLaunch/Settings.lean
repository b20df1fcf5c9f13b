import ContainerLaunch.Text.Blank
import ContainerLaunch.Text.Shown

/-! # Settings

What the launcher can be set to: whether it keeps a debugging log, and which interpreter and which
debug launcher it names inside the container. Only the first is open to the user, through one
environment variable.
-/

namespace ContainerLaunch

@[ext]
structure Settings where
  debug : Bool := false
  python : Text := "python3".toList
  launcher : Text := "/debugpy/launcher".toList
  deriving DecidableEq, Repr

namespace Settings

def variableName : Text := "DEBUGPY_LAUNCHER_LOG".toList

/-- Any value switches debugging on but an empty one, `0` and `false`; white space around the value
and the case of its ASCII letters do not count. -/
def switchesOn (value : Text) : Bool :=
  let word := Text.trim value
  !(word.isEmpty || word == ['0'] || word.map Char.toLower == "false".toList)

/-- A value that is no text is taken for none. -/
def ofEnvironment (value : Option Bytes) : Settings :=
  { debug := (value.bind Utf8.decode?).any switchesOn }

def shown (settings : Settings) : Text :=
  Shown.record "Config"
    [Shown.field "debug" (Shown.truth settings.debug),
      Shown.field "python" (Shown.text settings.python),
      Shown.field "launcher" (Shown.text settings.launcher)]

end Settings

end ContainerLaunch
