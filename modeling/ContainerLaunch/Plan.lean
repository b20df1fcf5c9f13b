import ContainerLaunch.Intake
import ContainerLaunch.Launch

/-! # Plans

What a run of the program would start, found out without starting it.
-/

namespace ContainerLaunch

structure Plan where
  settings : Settings
  arguments : List Bytes

namespace Plan

def make (argv : List Bytes) (environment : Option Bytes) : Except Intake.Refusal Plan := do
  let arguments ← Intake.accept argv
  return ⟨Settings.ofEnvironment environment, arguments⟩

/-- How the command of a plan is found. -/
def work (plan : Plan) : Work Failure Command := Launch.preparing plan.settings plan.arguments

def command (plan : Plan) : Transcript Failure Command := plan.work.alone

end Plan

end ContainerLaunch
