import ContainerLaunch.Work

/-! # The launch

A launch has four stages: the request is unpacked and turned into a command, the command's line is
printed, the command is started, and its end is waited for. Each stage is reached only when those
before it have succeeded.
-/

namespace ContainerLaunch

/-- Why a launch did not come to an exit code, told by the stage that failed. -/
inductive Fault where
  | preparing (failure : Failure)
  | announcing (cause : SystemError)
  | starting (failure : Failure)
  deriving DecidableEq, Repr

namespace Fault

def report : Fault → Report
  | preparing failure => failure.report
  | announcing cause => ⟨"Failed to print command line".toList, [cause.message]⟩
  | starting failure => failure.report.within "Failed to launch debugpy in container".toList

end Fault

namespace Launch

def unpacking (arguments : List Bytes) : Work Failure Request := do
  let request ← .ofOutcome (Request.unpack arguments)
  .note (.unpacked request)
  return request

def preparing (settings : Settings) (arguments : List Bytes) : Work Failure Command :=
  .within (.preparing arguments) do
    let request ← unpacking arguments
    let command := request.command settings
    .note (.prepared command)
    return command

/-- The line of the command and a newline. -/
def announcement (command : Command) : Bytes := Utf8.encode (command.line ++ ['\n'])

/-- Prints and flushes, so that the line comes before anything the command writes. -/
def announcing (output : Output) (command : Command) : Work SystemError Unit :=
  match output with
  | .accepts => do
    .did (.printed (announcement command))
    .did .flushed
  | .refusesWrite cause taken => do
    .did (.printed ((announcement command).take taken))
    .ofOutcome (.error cause)
  | .refusesFlush cause => do
    .did (.printed (announcement command))
    .ofOutcome (.error cause)

/-- A command with a zero byte in it is refused before the host is asked. -/
def starting (host : Host) (stdin : Bytes) (command : Command) : Work SystemError Child :=
  if command.holdsZero then .ofOutcome (.error .zeroByte)
  else do
    .did (.attempted command)
    let child ← .ofOutcome (host.start command stdin)
    .did (.relayed child)
    return child

/-- What is noted about a child's end. -/
def verdict (status : WaitStatus) : Journal.Event :=
  if status.succeeded then .succeeded else .exited status.exitCode

def running (host : Host) (stdin : Bytes) (command : Command) : Work Failure Nat :=
  .within (.child command.program) do
    .note (.running command)
    let child ← (starting host stdin command).mapFailure fun (cause : SystemError) ↦
      .startRefused command.line cause
    .note (verdict child.status)
    return child.status.exitCode

def executing (host : Host) (settings : Settings) (stdin : Bytes) (arguments : List Bytes) :
    Work Fault Nat :=
  .within (.executing arguments) do
    let command ← (preparing settings arguments).mapFailure .preparing
    (announcing host.output command).mapFailure .announcing
    let code ← (running host stdin command).mapFailure .starting
    .note (.finished code)
    return code

/-! ### The stages by themselves -/

def unpack (arguments : List Bytes) : Transcript Failure Request := (unpacking arguments).alone

def prepare (settings : Settings) (arguments : List Bytes) : Transcript Failure Command :=
  (preparing settings arguments).alone

def announce (output : Output) (command : Command) : Transcript SystemError Unit :=
  (announcing output command).alone

def start (host : Host) (stdin : Bytes) (command : Command) : Transcript SystemError Child :=
  (starting host stdin command).alone

def run (host : Host) (stdin : Bytes) (command : Command) : Transcript Failure Nat :=
  (running host stdin command).alone

def execute (host : Host) (settings : Settings) (stdin : Bytes) (arguments : List Bytes) :
    Transcript Fault Nat :=
  (executing host settings stdin arguments).alone

end Launch

end ContainerLaunch
