import ContainerLaunch.Rehearsal.Shell
import ContainerLaunch.Rehearsal.Tools

/-! # The rehearsal host

A host that starts no process: commands are looked up in the file tree and carried out as functions,
so that a whole launch can be run through and looked at.
-/

namespace ContainerLaunch.Rehearsal

/-- The longest single argument and the zero byte at its end. -/
def longestArgument : Nat := 131072

/-- What a tool does with the arguments of a command. -/
def carryOut (tool : Tool) (command : Command) (stdin : Bytes) : Child :=
  let scene : Scene :=
    { program := command.program, tree := .standard, working := FileTree.workingDirectory, stdin }
  match perform tool scene command.arguments with
  | some performance => performance.child
  | none => shell command.program command.arguments stdin

def start (command : Command) (stdin : Bytes) : Except SystemError Child := do
  let tool ← FileTree.standard.locate command.program
  if command.vector.any (·.length ≥ longestArgument) then .error .listTooLong
  else return carryOut tool command stdin

def host (output : Output) : Host := ⟨output, start⟩

end ContainerLaunch.Rehearsal
