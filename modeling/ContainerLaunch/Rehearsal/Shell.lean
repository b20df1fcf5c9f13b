import ContainerLaunch.Host
import ContainerLaunch.Rehearsal.Shell.Start

/-! # The rehearsal shell

A shell that carries out scripts in a world of its own. Commands stand within commands, functions
and other shells, and the evaluation of each one depends on that of those within it.
-/

namespace ContainerLaunch.Rehearsal

namespace Shell

open Run

/-- The evaluation of commands that go so deep; a process in which they go deeper has no more room
for them. -/
def evaluator : Nat → Evaluator
  | 0 =>
    let noRoom {α : Type} : Run α := throw (.ended (.killed 11 (by decide) (by decide)))
    ⟨fun _ _ ↦ noRoom, fun _ _ ↦ noRoom⟩
  | depth + 1 =>
    ⟨fun duty command ↦ (evaluator depth).step duty command,
      fun name arguments ↦ (evaluator depth).main name arguments⟩

/-- How deep commands may stand within others. -/
def deepestCommand : Nat := 100000

/-- The first process, and the one that has started it. -/
def firstProcess : Nat := 1

def starter : Nat := 999

def environment : List Variable :=
  let list := [Ascii.colon].intercalate FileTree.searchPath
  [⟨said "PATH", some list, true, false⟩, ⟨said "HOME", some (said "/root"), true, false⟩]

/-- The process that becomes the shell, with the three standard streams. -/
def firstState (program stdin : Bytes) : State where
  world :=
    { tree := .standard
      streams := #[.channel stdin [], .channel [] [], .channel [] []]
      nextId := starter + 2
      alive := [starter + 1, starter, firstProcess] }
  process :=
    { id := starter + 1
      parent := starter
      mainId := starter + 1
      name := program
      parameters := []
      bindings := environment
      handles := [(0, ⟨0, true, false⟩), (1, ⟨1, false, true⟩), (2, ⟨2, false, true⟩)]
      working := FileTree.workingDirectory
      directory := [] }

/-- Carries out the processes that no shell has waited for. -/
def runLeft (evaluator : Evaluator) : Nat → Run Unit
  | 0 => return ()
  | fuel + 1 => do
    match (← world).jobs with
    | [] => return ()
    | job :: _ =>
      evaluator.runJob (evaluator.finish 100) job.id
      runLeft evaluator fuel

/-- What is seen of a shell when its course is over. -/
def seen (course : Except Stop Ended × State) : Child :=
  ⟨course.2.world.unread 1, course.2.world.unread 2, (endOf course.1).val⟩

end Shell

open Shell Run in
/-- The shell as a tool. -/
def shell (program : Bytes) (arguments : List Bytes) (stdin : Bytes) : Child :=
  let evaluator := evaluator deepestCommand
  let run : Run Ended := do
    let status ← evaluator.shell program arguments
    runLeft evaluator 10000
    return status
  seen (run.run.run (firstState program stdin))

end ContainerLaunch.Rehearsal
