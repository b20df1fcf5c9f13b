import ContainerLaunch.Request

/-! # Records of the journal

What the launcher may note while it works. A record is an event and the activities it happened
within, the outermost first, so it can be written only in the forms given here.
-/

namespace ContainerLaunch.Journal

inductive Level where
  | debug
  | warning
  deriving DecidableEq, Repr

inductive Event where
  | unpacked (request : Request)
  | prepared (command : Command)
  | running (command : Command)
  | succeeded
  | exited (code : Nat)
  | finished (code : Nat)
  deriving DecidableEq, Repr

namespace Event

def level : Event → Level
  | exited _ => .warning
  | unpacked _ | prepared _ | running _ | succeeded | finished _ => .debug

def message : Event → Text
  | unpacked _ => "Unpacked invocation".toList
  | prepared _ => "Prepared container-exec command".toList
  | running _ => "Running command".toList
  | succeeded => "Command completed successfully".toList
  | exited code => "Command exited with status ".toList ++ Text.decimal code
  | finished code => "Launcher finished with exit code ".toList ++ Text.decimal code

def fields : Event → List (Text × Text)
  | unpacked request => [("invocation".toList, request.shown)]
  | prepared command | running command =>
    [("argv".toList, Shown.byteStrings command.vector)]
  | succeeded | exited _ | finished _ => []

end Event

/-- An activity of the launcher. -/
inductive Span where
  | executing (arguments : List Bytes)
  | preparing (arguments : List Bytes)
  | child (program : Bytes)
  deriving DecidableEq, Repr

namespace Span

def name : Span → Text
  | executing _ => "execute_command".toList
  | preparing _ => "prepare_command".toList
  | child _ => "run_inherited".toList

def field : Span → Text × Text
  | executing arguments | preparing arguments => ("args".toList, Shown.byteStrings arguments)
  | child program => ("program".toList, Quoted.write program)

end Span

structure Record where
  spans : List Span
  event : Event
  deriving DecidableEq, Repr

end ContainerLaunch.Journal
