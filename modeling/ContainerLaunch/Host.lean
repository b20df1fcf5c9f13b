import ContainerLaunch.Command
import ContainerLaunch.SystemError
import ContainerLaunch.WaitStatus

/-! # Hosts

What the launcher depends on and does not decide: how standard output takes the announcement, and
what becomes of a command that is to be started.
-/

namespace ContainerLaunch

/-- How standard output takes what is printed. -/
inductive Output where
  | accepts
  /-- Writing fails, and of the bytes only the first `taken` have been taken. -/
  | refusesWrite (cause : SystemError) (taken : Nat := 0)
  /-- The bytes are taken, but they cannot be passed on. -/
  | refusesFlush (cause : SystemError)
  deriving DecidableEq, Repr

/-- A child that has ended: what it wrote, and how it ended. -/
structure Child where
  stdout : Bytes
  stderr : Bytes
  status : WaitStatus
  deriving DecidableEq, Repr

structure Host where
  output : Output
  /-- Starts a command with these bytes on its standard input and waits for its end. A host that can
  start a command can also wait for it: a wait that failed would be told like a refused start, but
  with the output of the child before it, and has no place here. -/
  start : Command → Bytes → Except SystemError Child

end ContainerLaunch
