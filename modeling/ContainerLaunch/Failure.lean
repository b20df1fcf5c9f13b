import ContainerLaunch.Report
import ContainerLaunch.SystemError

/-! # Failures of the launcher

The launcher's own failures with their wording and causes.
-/

namespace ContainerLaunch

/-- An error from outside and the texts of what it came from in turn. An error of the system itself
came from nothing else. -/
structure Cause where
  error : SystemError
  sources : List Text := []
  deriving DecidableEq, Repr

namespace Cause

instance : Coe SystemError Cause := ⟨fun error ↦ { error }⟩

instance : CoeHead Cause SystemError := ⟨error⟩

def message (cause : Cause) : Text := cause.error.message

/-- What a report says of a cause, each text one cause further back. -/
def texts (cause : Cause) : List Text := cause.message :: cause.sources

end Cause

inductive Failure where
  | tooFewArguments (found required : Nat)
  /-- The command with this line could not be started. -/
  | startRefused (line : Text) (cause : Cause)
  | noLog (reason : Text)
  deriving DecidableEq, Repr

namespace Failure

def message : Failure → Text
  | tooFewArguments found required =>
    "Insufficient arguments: expected at least ".toList ++ Text.decimal required ++
      " (<adapter-host> [args...] <hostname> <exe-path> <container-id>), got ".toList ++
      Text.decimal found
  | startRefused line _ => "Process error: failed to spawn `".toList ++ line ++ "`".toList
  | noLog reason => "Logging error: ".toList ++ reason

def cause? : Failure → Option Cause
  | startRefused _ cause => some cause
  | tooFewArguments _ _ | noLog _ => none

def report (failure : Failure) : Report :=
  ⟨failure.message, failure.cause?.toList.flatMap Cause.texts⟩

end Failure

end ContainerLaunch
