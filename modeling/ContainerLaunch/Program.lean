import ContainerLaunch.Intake
import ContainerLaunch.Launch

/-! # The program

The whole run of the launcher: intake of its arguments, settings from the environment, the launch,
and the exit code it ends with. A refused command line is told before anything is set up.
-/

namespace ContainerLaunch

/-- What a run of the program is given, its host apart. -/
structure Program where
  /-- The program's own name and its arguments. -/
  argv : List Bytes
  /-- The value of the environment variable that switches debugging on. -/
  environment : Option Bytes
  stdin : Bytes
  /-- Lines of the journal are coloured unless the environment asks for plain ones. -/
  style : Journal.Style

namespace Program

structure Run where
  journal : Option Journal
  effects : Effects
  code : Nat

namespace Run

def stdout (run : Run) : Bytes := run.effects.stdout

def stderr (run : Run) : Bytes := run.effects.stderr run.journal

end Run

def refusedCode : Nat := 2

def failedCode : Nat := 1

/-- The last word of a run that failed. -/
def complaint (fault : Fault) : Text :=
  "Error: ".toList ++ fault.report.written ++ ['\n']

def launched (launch : Transcript Fault Nat) : Effects × Nat :=
  match launch.outcome with
  | .ok code => (launch.effects, code)
  | .error fault => (launch.effects ++ [.complained (complaint fault)], failedCode)

/-- The journal is the first of its process, so whoever keeps it takes it. -/
def run (host : Host) (program : Program) : Run :=
  match Intake.accept program.argv with
  | .error refusal => ⟨none, [.complained refusal.message], refusedCode⟩
  | .ok arguments =>
    let settings := Settings.ofEnvironment program.environment
    let (effects, code) := launched (Launch.execute host settings program.stdin arguments)
    ⟨some ⟨.ofDebug settings.debug, program.style⟩, effects, code⟩

end Program

end ContainerLaunch
