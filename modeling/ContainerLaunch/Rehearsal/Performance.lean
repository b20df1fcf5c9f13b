import ContainerLaunch.Host

/-! # Performances

What a rehearsed tool says, in the order in which it says it, and how it ends. The order matters
where both streams lead to one place.
-/

namespace ContainerLaunch.Rehearsal

/-- The stream that something is said on. -/
inductive Voice where
  | out
  | err
  deriving DecidableEq, Repr

abbrev Utterance := Voice × Bytes

structure Performance where
  said : List Utterance
  code : Nat
  /-- What of standard input has not been read. -/
  unread : Bytes

namespace Performance

/-- All that was said on one stream. -/
def heard (performance : Performance) (voice : Voice) : Bytes :=
  performance.said.flatMap fun (other, bytes) ↦ if other = voice then bytes else []

def child (performance : Performance) : Child :=
  ⟨performance.heard .out, performance.heard .err, .exited (.ofNat performance.code)⟩

end Performance

end ContainerLaunch.Rehearsal
