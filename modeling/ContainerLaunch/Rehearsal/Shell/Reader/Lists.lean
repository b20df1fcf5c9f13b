import ContainerLaunch.Rehearsal.Shell.Reader.Commands

/-! # Reading lists of commands

A list ends before something that closes what it stands in. Outside all commands it ends with its
line, so that what comes first in a script is carried out before the rest of it is read.
-/

namespace ContainerLaunch.Rehearsal.Shell.Reading

/-- The commands of a pipeline after the first, the latest first. -/
def piped (deeper : Deeper) (command : Reading Command) (first : Command) :
    Reading (List Command) :=
  steps [first] fun commands ↦ do
    match ← token deeper {} with
    | .pipe =>
      skipTo
      return .inl ((← command) :: commands)
    | _ =>
      again
      return .inr commands
where
  /-- Passes over newlines before the next command. -/
  skipTo : Reading Unit := do
    let _ ← token deeper Wish.line
    again

def pipeline (deeper : Deeper) (command : Reading Command) : Reading Command := do
  let negated ← match ← token deeper {} with
    | .keyword "!" =>
      let _ ← token deeper Wish.command
      again
      pure true
    | _ =>
      again
      pure false
  let pipeline ← match ← piped deeper command (← command) with
    | [only] => pure only
    | commands => pure (.pipeline false commands.reverse)
  return if negated then .not pipeline else pipeline

/-- Pipelines of which the next one depends on the one before. -/
def conditional (deeper : Deeper) (command : Reading Command) : Reading Command := do
  steps (← pipeline deeper command) fun first ↦ do
    let joined (join : Command → Command → Command) : Reading (Command ⊕ Command) := do
      let _ ← token deeper Wish.line
      again
      return .inl (join first (← pipeline deeper command))
    match ← token deeper {} with
    | .and => joined .and
    | .or => joined .or
    | _ =>
      again
      return .inr first

def inBackground : Command → Command
  | .pipeline _ commands => .pipeline true commands
  | command => .background command

def followedBy (first : Option Command) (second : Command) : Option Command :=
  match first with
  | some first => some (.sequence first second)
  | none => some second

/-- A list within another command. Newlines are passed over; `mayBeEmpty` tells whether there may be
nothing before the closing token. -/
def innerList (deeper : Deeper) (command : Reading Command) (mayBeEmpty : Bool) :
    Reading (Option Command) :=
  steps (none, mayBeEmpty) fun ((found, mayEnd) : Option Command × Bool) ↦ do
    let first ← token deeper Wish.line
    again
    match first with
    | .endOfInput =>
      readDocuments deeper
      return .inr found
    | _ =>
      if mayEnd && first.endsList then return .inr found
      else
        let next ← conditional deeper command
        match ← token deeper {} with
        | .ampersand => return .inl (followedBy found (inBackground next), true)
        | .semicolon => return .inl (followedBy found next, true)
        | .newline =>
          again
          return .inl (followedBy found next, true)
        | .endOfInput =>
          readDocuments deeper
          again
          return .inr (followedBy found next)
        | _ =>
          again
          return .inr (followedBy found next)

/-- A list within another command; `depth` bounds how deep commands stand within commands. -/
def list : Nat → Bool → Reading (Option Command)
  | 0, _ => unexpected none
  | depth + 1, mayBeEmpty => do
    let deeper : Deeper := ⟨pieces (list depth true) depth, list depth⟩
    innerList deeper (command deeper (← fuel)) mayBeEmpty

/-- What comes next in a script. -/
inductive Next where
  | nothing
  | line (commands : Option Command)

/-- The list on the next line. -/
def nextLine : Reading Next := do
  let fuel ← fuel
  let deeper : Deeper := ⟨pieces (list fuel true) fuel, list fuel⟩
  steps none fun (found : Option Command) ↦ do
    match ← token deeper Wish.command, found with
    | .newline, _ =>
      readDocuments deeper
      return .inr (.line found)
    | .endOfInput, none => return .inr .nothing
    | .endOfInput, some _ =>
      readDocuments deeper
      again
      return .inr (.line found)
    | _, _ =>
      again
      let next ← conditional deeper (command deeper fuel)
      match ← token deeper {} with
      | .ampersand => return .inl (followedBy found (inBackground next))
      | .semicolon => return .inl (followedBy found next)
      | .newline | .endOfInput =>
        again
        return .inl (followedBy found next)
      | _ => unexpected none

end ContainerLaunch.Rehearsal.Shell.Reading
