import ContainerLaunch.Intake
import ContainerLaunch.Proofs.Pieces
import Mathlib.Data.List.TakeWhile

/-!
# What intake keeps

Of a command line everything after the program's own name is kept, byte for byte, but a `--` in the
first place.  Only an argument in that place can be refused, and only for a name that is no text;
behind a `--` of its own every list is delivered as it is, a refused one too.  Hence two lists come
to the same arguments only when they are equal or when one of them is the other behind a `--`.

All this is so with any reader that keeps to its manual.  A manual speaks of single arguments; what
it says comes down to the first of them, since from then on there are values only.
-/

namespace ContainerLaunch.Intake

variable {argument name first path : Bytes} {argv argv' given given' others accepted accepted' :
  List Bytes}

/-! ## Names of options -/

namespace Declaration

variable {declaration : Declaration}

end Declaration

/-! ## What a reader makes of its arguments -/

namespace Reader

variable {reader : Reader} {declaration : Declaration} {state next : reader.State}

end Reader

/-! ## The three things that may stand in the first place -/

variable {reader : Reader}

/-- The first list is the second behind a `--`, and the second begins with none itself. -/
def Escapes (given given' : List Bytes) : Prop :=
  given = hyphens :: given' ∧ given'.head? ≠ some hyphens

end ContainerLaunch.Intake
