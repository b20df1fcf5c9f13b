/-! # Wait statuses

The word by which the system tells how a child ended. When the child exited, the low seven bits are
zero and bits 8 to 15 hold its exit code. When a signal killed it, the low seven bits are the number
of the signal and the next one tells of a memory image. All seven are ones when the child has not
ended.
-/

namespace ContainerLaunch

structure WaitStatus where
  word : UInt32
  deriving DecidableEq, Repr

namespace WaitStatus

inductive Ending where
  | exited (code : Nat)
  | killed (signal : Nat)
  | unfinished
  deriving DecidableEq, Repr

def ending (status : WaitStatus) : Ending :=
  let low := status.word.toNat % 0x80
  if low = 0 then .exited (status.word.toNat / 0x100 % 0x100)
  else if low = 0x7F then .unfinished
  else .killed low

/-- The code to end with in turn: the child's own, and for a signal its number above 128. -/
def exitCode (status : WaitStatus) : Nat :=
  match status.ending with
  | .exited code => code
  | .killed signal => 128 + signal
  | .unfinished => 1

def succeeded (status : WaitStatus) : Bool := status.word == 0

def exited (code : UInt8) : WaitStatus := ⟨code.toUInt32 * 0x100⟩

/-- A child killed by this signal, which left a memory image if `image` holds. -/
def killed (signal : Nat) (image : Bool) : WaitStatus :=
  ⟨.ofNat (signal % 0x80 + if image then 0x80 else 0)⟩

/-- The words of children that have ended: by exiting with a code, or by a signal, which may have
left a memory image. -/
inductive Final : WaitStatus → Prop where
  | exited (code : UInt8) : Final (exited code)
  | killed {signal : Nat} (image : Bool) (hpos : 0 < signal) (hlt : signal < 0x7F) :
    Final (killed signal image)

end WaitStatus

end ContainerLaunch
