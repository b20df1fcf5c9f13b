import ContainerLaunch.Rehearsal.Search.Expression

/-! # Matching

Where in a line an expression is found. From a place in the line an expression leads to all the
places at which a string that it describes may end.
-/

namespace ContainerLaunch.Rehearsal.Expression

/-- A line to look at. -/
structure Line where
  bytes : Array UInt8
  /-- Letters of either case count as the same. -/
  folds : Bool

/-- A place in a line, and where the groups passed on the way began and ended. -/
structure Reached where
  place : Nat
  groups : List (Nat × Nat × Nat)
  deriving DecidableEq

namespace Line

def same (line : Line) (a b : UInt8) : Bool :=
  a == b || (line.folds && Ascii.toLower a == Ascii.toLower b)

def toUpper (b : UInt8) : UInt8 := if Ascii.isLower b then b - 0x20 else b

def isIn (line : Line) (set : ByteSet) (b : UInt8) : Bool :=
  if line.folds then
    let members := { set with negated := false }
    (members.contains b || members.contains (Ascii.toLower b) || members.contains (toUpper b)) !=
      set.negated
  else set.contains b

def isWordAt (line : Line) (place : Nat) : Bool := (line.bytes[place]?).any Ascii.isWordByte

def isWordBefore (line : Line) (place : Nat) : Bool := place > 0 && line.isWordAt (place - 1)

def holds (line : Line) (place : Nat) : Anchor → Bool
  | .start => place == 0
  | .finish => place == line.bytes.size
  | .wordStart => !line.isWordBefore place && line.isWordAt place
  | .wordEnd => line.isWordBefore place && !line.isWordAt place
  | .boundary => line.isWordBefore place != line.isWordAt place
  | .interior => line.isWordBefore place == line.isWordAt place

/-- The place after a byte that satisfies a condition. -/
def step (line : Line) (reached : Reached) (condition : UInt8 → Bool) : List Reached :=
  if (line.bytes[reached.place]?).any condition then
    [{ reached with place := reached.place + 1 }]
  else []

/-- The place after the same bytes as between two other places. -/
def stepBack (line : Line) (reached : Reached) (first last : Nat) : List Reached :=
  let length := last - first
  let agrees := (List.range length).all fun n ↦
    match line.bytes[first + n]?, line.bytes[reached.place + n]? with
    | some a, some b => line.same a b
    | _, _ => false
  if agrees then [{ reached with place := reached.place + length }] else []

end Line

/-- All places reached by going on from some places `least` times or more, but no more often than
`most` times. Once `least` is met each further round has to come forward. -/
def roundsFrom (step : Reached → List Reached) :
    (fuel least : Nat) → (most : Option Nat) → List Reached → List Reached
  | 0, _, _, _ => []
  | fuel + 1, least, most, places =>
    if places.isEmpty then []
    else if least > 0 then
      roundsFrom step fuel (least - 1) (most.map (· - 1)) (places.flatMap step).eraseDups
    else if most = some 0 then places
    else
      let further := places.flatMap fun reached ↦
        (step reached).filter (·.place > reached.place)
      places ++ roundsFrom step fuel 0 (most.map (· - 1)) further.eraseDups

/-- The places an expression leads to. -/
def ends (line : Line) : Expression → Reached → List Reached
  | .empty, reached => [reached]
  | .byte b, reached => line.step reached (line.same b)
  | .any, reached => line.step reached (· != Ascii.zero)
  | .set members, reached => line.step reached (line.isIn members)
  | .anchor condition, reached => if line.holds reached.place condition then [reached] else []
  | .group number inner, reached =>
    (ends line inner reached).map fun after ↦
      { after with
        groups := (number, reached.place, after.place) :: after.groups.filter (·.1 != number) }
  | .back number, reached =>
    match reached.groups.lookup number with
    | some (first, last) => line.stepBack reached first last
    | none => []
  | .sequence first second, reached =>
    match ends line first reached with
    | [] => []
    | [after] => ends line second after
    | places => (places.flatMap (ends line second)).eraseDups
  | .choice first second, reached =>
    (ends line first reached ++ ends line second reached).eraseDups
  | .repeated inner least most, reached =>
    (roundsFrom (ends line inner) (line.bytes.size + least + 2) least most [reached]).eraseDups

/-- Where strings that an expression describes end which begin at a place. -/
def endsFrom (line : Line) (expression : Expression) (place : Nat) : List Nat :=
  (ends line expression ⟨place, []⟩).map Reached.place

end ContainerLaunch.Rehearsal.Expression
