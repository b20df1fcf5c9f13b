import ContainerLaunch.Journal.Line

/-! # Keepers of the journal

Each process has one place for its journal, and a keeper looks after it. Which journal stands there
is the keeper's word; the launcher can only hand one over.
-/

namespace ContainerLaunch.Journal

structure Keeper where
  State : Type
  /-- How a process begins. -/
  fresh : State
  /-- Takes a journal for the process, or says why not. -/
  take : Journal → State → Except Text Unit × State
  /-- The journal of the process. -/
  journal : State → Option Journal

namespace Keeper

/-- The words of a keeper who has a journal. -/
def refusal : Text := "a global default trace dispatcher has already been set".toList

/-- A keeper takes one journal, and has it for as long as the process lasts: whoever comes later is
told that it has been set. -/
structure TakesOne (keeper : Keeper) : Prop where
  journal_fresh : keeper.journal keeper.fresh = none
  take_of_none : ∀ journal state, keeper.journal state = none →
    (keeper.take journal state).1 = .ok () ∧
      keeper.journal (keeper.take journal state).2 = some journal
  take_of_some : ∀ journal state taken, keeper.journal state = some taken →
    (keeper.take journal state).1 = .error refusal ∧
      keeper.journal (keeper.take journal state).2 = some taken

/-- A keeper with room for one journal. -/
def single : Keeper where
  State := Option Journal
  fresh := none
  take journal
    | none => (.ok (), some journal)
    | some taken => (.error refusal, some taken)
  journal := id

end Keeper

end ContainerLaunch.Journal
