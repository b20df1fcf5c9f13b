import ContainerLaunch.Program
import ContainerLaunch.Rehearsal.Host

/-! # The command line

Reads the arguments, the environment and standard input, rehearses the launch and does what its
transcript says.
-/

namespace ContainerLaunch

def causeOf : IO.Error → SystemError
  | .resourceExhausted _ code _ | .resourceVanished code _ => .numbered code.toNat
  | other => .worded (toString other).toList

def put (stream : IO.FS.Stream) (bytes : Bytes) : IO Unit :=
  unless bytes.isEmpty do
    stream.write ⟨bytes.toArray⟩
    stream.flush

/-- Does one effect and tells how standard output took it. -/
def perform (journal : Option Journal) (effect : Effect) : IO Output := do
  put (← IO.getStderr) (effect.stderr journal)
  try
    put (← IO.getStdout) effect.stdout
    return .accepts
  catch error => return .refusesWrite (causeOf error)

/-- Does effects in order as long as standard output takes them. When it refuses, the result tells
how many were done before. -/
def performAll (journal : Option Journal) : (done : Nat) → Effects → IO (Nat × Output)
  | done, [] => return (done, .accepts)
  | done, effect :: later => do
    match ← perform journal effect with
    | .accepts => performAll journal (done + 1) later
    | refusal => return (done, refusal)

def launchOnce (program : Program) : IO Nat := do
  let hoped := program.run (Rehearsal.host .accepts)
  match ← performAll hoped.journal 0 hoped.effects with
  | (_, .accepts) => return hoped.code
  | (done, refusal) =>
    let run := program.run (Rehearsal.host refusal)
    discard <| performAll run.journal done (run.effects.drop done)
    return run.code

end ContainerLaunch

open ContainerLaunch in
/-- The journal is coloured unless the environment asks for none. -/
def main (arguments : List String) : IO UInt32 := do
  let path := (← IO.appPath).toString
  let value ← IO.getEnv (String.ofList Settings.variableName)
  let colourless ← IO.getEnv "NO_COLOR"
  let stdin ← (← IO.getStdin).readBinToEnd
  let program : Program :=
    { argv := (path :: arguments).map Utf8.ofString
      environment := value.map Utf8.ofString
      stdin := stdin.toList
      style := if (colourless.getD "").isEmpty then .coloured else .plain }
  return .ofNat (← launchOnce program)
