import ContainerLaunch.SystemError.Numbers

/-! # Errors of the system

Why something outside refused: an error the operating system numbers, a byte string that cannot be
handed to it because it holds a zero byte, or any other reason in words. What such an error came
from in its turn is not part of it; the system's own errors came from nothing else.
-/

namespace ContainerLaunch

inductive SystemError where
  | numbered (number : Int)
  | zeroByte
  | worded (reason : Text)
  deriving DecidableEq, Repr

namespace SystemError

def missing : SystemError := .numbered 2
def noProcess : SystemError := .numbered 3
def listTooLong : SystemError := .numbered 7
def badDescriptor : SystemError := .numbered 9
def forbidden : SystemError := .numbered 13
def alreadyThere : SystemError := .numbered 17
def notDirectory : SystemError := .numbered 20
def isDirectory : SystemError := .numbered 21
def noSpace : SystemError := .numbered 28
def brokenPipe : SystemError := .numbered 32
def outOfRange : SystemError := .numbered 34
def nameTooLong : SystemError := .numbered 36
def tooManyLinks : SystemError := .numbered 40

/-- What the system says of a numbered error. -/
def phrase (number : Int) : Text :=
  match phrases.lookup number with
  | some phrase => phrase.toList
  | none => "Unknown error ".toList ++ Text.integer number

def sort : SystemError → Text
  | numbered number => ((sorts.lookup number).getD commonSort).toList
  | zeroByte => "InvalidInput".toList
  | worded _ => "Other".toList

def number? : SystemError → Option Int
  | numbered number => some number
  | zeroByte | worded _ => none

def message : SystemError → Text
  | numbered number => phrase number ++ " (os error ".toList ++ Text.integer number ++ ")".toList
  | zeroByte => "nul byte found in provided data".toList
  | worded reason => reason

end SystemError

end ContainerLaunch
