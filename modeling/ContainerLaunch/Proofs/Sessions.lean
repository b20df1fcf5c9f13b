import ContainerLaunch.Proofs.Activities
import ContainerLaunch.Proofs.Streams
import ContainerLaunch.Session

/-!
# Sessions and their journal

Of all steps only the first that opens the journal leaves anything behind: from then on the keeper
has the journal as that step opened it, and refuses every other.  The activities a step enters are
left before it ends.  So the journal is all that a step has of those before it: an operation adds to
the journal what it would add right after the opening, and answers what it would answer alone.
-/

namespace ContainerLaunch

theorem Journal.Keeper.takesOne_single : Keeper.single.TakesOne where
  journal_fresh := rfl
  take_of_none journal state h := by
    obtain rfl : state = none := h
    exact ⟨rfl, rfl⟩
  take_of_some journal state taken h := by
    obtain rfl : state = some taken := h
    exact ⟨rfl, rfl⟩

namespace Session

open Effects Work

variable {keeper : Journal.Keeper} {process : Process keeper} {host : Host}
  {style : Journal.Style} {journal : Option Journal} {step : Step} {steps before after : List Step}

/-! ## What operations leave entered -/

/-- All activities that were entered before are entered after, and no others. -/
def Deed.LeavesAll (deed : Deed) : Prop := ∀ entered, (deed entered).2 = entered

theorem leavesAll_answering (answer : Answer) : (Deed.answering answer).LeavesAll := fun _ ↦ rfl

theorem leavesAll_working {ε α : Type} {work : Work ε α} {transcript : Transcript ε α}
    (answer : Except ε α → Answer) (h : Does work transcript) :
    (Deed.working answer work).LeavesAll := by
  intro entered
  rw [Deed.working, h]

theorem leavesAll_comparing (settings₁ : Settings) (arguments₁ : List Bytes)
    (settings₂ : Settings) (arguments₂ : List Bytes) :
    (Deed.working .compared (comparing settings₁ arguments₁ settings₂ arguments₂)).LeavesAll := by
  have hfirst := (Launch.does_unpacking arguments₁).attempt
  have hsecond := (Launch.does_unpacking arguments₂).attempt
  unfold comparing
  exact leavesAll_working _ (hfirst.andThen fun _ ↦ hsecond.andThen fun _ ↦ Does.ofOutcome _)

theorem leavesAll_display (subject : Subject) : subject.display.LeavesAll := by
  cases subject with
  | byteString | settings => exact leavesAll_answering _
  | accepted argv =>
    rw [Subject.display]
    split <;> exact leavesAll_answering _
  | request arguments | command _ arguments =>
    exact leavesAll_working _ (Launch.does_unpacking arguments)

theorem leavesAll_perform (host : Host) (operation : Operation) :
    (operation.perform host).LeavesAll := by
  cases operation with
  | defaults | accept | configure | qualify | format | exitCode | explain =>
    exact leavesAll_answering _
  | unpack arguments => exact leavesAll_working _ (Launch.does_unpacking arguments)
  | prepare settings arguments =>
    exact leavesAll_working _ (Launch.does_preparing settings arguments)
  | compare settings₁ arguments₁ settings₂ arguments₂ =>
    exact leavesAll_comparing settings₁ arguments₁ settings₂ arguments₂
  | display subject => exact leavesAll_display subject
  | plan argv environment =>
    rw [Operation.perform]
    split
    next plan _ =>
      exact leavesAll_working _ (Launch.does_preparing plan.settings plan.arguments)
    next => exact leavesAll_answering _
  | run command stdin => exact leavesAll_working _ (Launch.does_running host stdin command)
  | execute settings arguments stdin =>
    exact leavesAll_working _ (Launch.does_executing host settings stdin arguments)

/-! ## One step -/

/-- The journal as a step opens it. -/
def opened (style : Journal.Style) (debug : Bool) : Journal := ⟨.ofDebug debug, style⟩

/-- What a step is told that comes to open the journal and finds it open. -/
def alreadyOpen : Failure :=
  .noLog ("Failed to initialize logging: ".toList ++ Journal.Keeper.refusal)

namespace Step

/-- The debugging a step asks for when it opens the journal. -/
def opening? : Step → Option Bool
  | openJournal debug => some debug
  | perform _ => none

def operation? : Step → Option Operation
  | openJournal _ => none
  | perform operation => some operation

/-- The entry of a step while this journal is open, or while there is none. -/
def entry (host : Host) (style : Journal.Style) (journal : Option Journal) : Step → Entry
  | openJournal debug =>
    match journal with
    | none => ⟨.opened (.ok ()), [], some (opened style debug)⟩
    | some taken => ⟨.opened (.error alreadyOpen), [], some taken⟩
  | perform operation =>
    let (effects, answer) := (operation.perform host []).1
    ⟨answer, effects, journal⟩

end Step

/-- The process is between two steps and has this journal. -/
structure Process.Has (process : Process keeper) (journal : Option Journal) : Prop where
  journal_eq : keeper.journal process.kept = journal
  entered_eq : process.entered = []

theorem openJournal_of_none (hkeeper : keeper.TakesOne) {kept : keeper.State}
    (h : keeper.journal kept = none) (style : Journal.Style) (debug : Bool) :
    (openJournal keeper style debug kept).1 = .ok () ∧
      keeper.journal (openJournal keeper style debug kept).2 = some (opened style debug) := by
  obtain ⟨houtcome, hjournal⟩ := hkeeper.take_of_none (opened style debug) kept h
  exact ⟨congrArg (Except.mapError _) houtcome, hjournal⟩

theorem openJournal_of_some (hkeeper : keeper.TakesOne) {kept : keeper.State} {taken : Journal}
    (h : keeper.journal kept = some taken) (style : Journal.Style) (debug : Bool) :
    (openJournal keeper style debug kept).1 = .error alreadyOpen ∧
      keeper.journal (openJournal keeper style debug kept).2 = some taken := by
  obtain ⟨houtcome, hjournal⟩ := hkeeper.take_of_some (opened style debug) kept taken h
  exact ⟨congrArg (Except.mapError _) houtcome, hjournal⟩

theorem advance_openJournal_fst (host : Host) (style : Journal.Style) (process : Process keeper)
    (debug : Bool) :
    (advance host style process (.openJournal debug)).1 =
      ⟨.opened (openJournal keeper style debug process.kept).1, [],
        keeper.journal (openJournal keeper style debug process.kept).2⟩ := rfl

/-- The journal tells the entry of a step and the journal after it: an open one stays as it is, and
otherwise it is the step that may open it. -/
theorem advance_of_has (hkeeper : keeper.TakesOne) (h : process.Has journal) (host : Host)
    (style : Journal.Style) (step : Step) :
    (advance host style process step).1 = step.entry host style journal ∧
      (advance host style process step).2.Has
        (journal.or (step.opening?.map (opened style))) := by
  obtain ⟨hjournal, hentered⟩ := h
  cases step with
  | openJournal debug =>
    rw [advance_openJournal_fst]
    cases journal with
    | none =>
      obtain ⟨houtcome, hopened⟩ := openJournal_of_none hkeeper hjournal style debug
      rw [houtcome, hopened]
      exact ⟨rfl, hopened, hentered⟩
    | some taken =>
      obtain ⟨houtcome, hkept⟩ := openJournal_of_some hkeeper hjournal style debug
      rw [houtcome, hkept]
      exact ⟨rfl, hkept, hentered⟩
  | perform operation =>
    have hleft := leavesAll_perform host operation process.entered
    rw [hentered] at hleft
    rw [Step.opening?, Option.map_none, Option.or_none, advance, hentered, hjournal]
    exact ⟨rfl, hjournal, hleft⟩

/-! ## Many steps -/

/-- The entries of steps that find this journal open, or none. -/
def entriesFrom (host : Host) (style : Journal.Style) : Option Journal → List Step → List Entry
  | _, [] => []
  | journal, step :: later =>
    step.entry host style journal ::
      entriesFrom host style (journal.or (step.opening?.map (opened style))) later

theorem runFrom_eq (hkeeper : keeper.TakesOne) (h : process.Has journal) (host : Host)
    (style : Journal.Style) (steps : List Step) :
    runFrom host style process steps = entriesFrom host style journal steps := by
  induction steps generalizing process journal with
  | nil => rfl
  | cons step steps ih =>
    obtain ⟨hentry, hnext⟩ := advance_of_has hkeeper h host style step
    rw [entriesFrom, ← hentry, ← ih hnext]
    rfl

/-- A session depends on its keeper in nothing. -/
theorem run_eq (hkeeper : keeper.TakesOne) (host : Host) (style : Journal.Style)
    (steps : List Step) : run host steps style keeper = entriesFrom host style none steps :=
  runFrom_eq hkeeper ⟨hkeeper.journal_fresh, rfl⟩ host style steps

theorem length_entriesFrom (host : Host) (style : Journal.Style) (journal : Option Journal)
    (steps : List Step) : (entriesFrom host style journal steps).length = steps.length := by
  induction steps generalizing journal with
  | nil => rfl
  | cons step steps ih => rw [entriesFrom, List.length_cons, List.length_cons, ih]

/-- The debugging that the first step to open the journal asks for. -/
def firstOpening? (steps : List Step) : Option Bool := steps.findSome? Step.opening?

theorem firstOpening?_cons (step : Step) (steps : List Step) :
    firstOpening? (step :: steps) = step.opening?.or (firstOpening? steps) := by
  unfold firstOpening?
  rw [List.findSome?_cons]
  cases step.opening? <;> rfl

/-- Later steps find the journal that was open at the beginning, or else the one first opened. -/
theorem entriesFrom_append (host : Host) (style : Journal.Style) (journal : Option Journal)
    (before after : List Step) :
    entriesFrom host style journal (before ++ after) =
      entriesFrom host style journal before ++
        entriesFrom host style (journal.or ((firstOpening? before).map (opened style))) after := by
  induction before generalizing journal with
  | nil => simp [entriesFrom, firstOpening?]
  | cons step before ih =>
    rw [List.cons_append, entriesFrom, entriesFrom, ih, Option.or_assoc, ← Option.map_or,
      ← firstOpening?_cons, List.cons_append]

/-- The entry of a step, whatever comes before it and after it. -/
theorem getElem?_entriesFrom (host : Host) (style : Journal.Style) (before : List Step)
    (step : Step) (after : List Step) :
    (entriesFrom host style none (before ++ step :: after))[before.length]? =
      some (step.entry host style ((firstOpening? before).map (opened style))) := by
  have hlength := length_entriesFrom host style none before
  rw [entriesFrom_append, List.getElem?_append_right (Nat.le_of_eq hlength), hlength, Nat.sub_self,
    entriesFrom, List.getElem?_cons_zero, Option.none_or]

/-! ## Replies -/

def operations (steps : List Step) : List Operation := steps.filterMap Step.operation?

/-- An operation and what came of it, the entries of the journal apart. -/
structure Reply where
  operation : Operation
  answer : Answer
  stdout : Bytes
  stderr : Bytes

def Entry.reply (entry : Entry) (operation : Operation) : Reply :=
  ⟨operation, entry.answer, entry.stdout, entry.effects.unlogged⟩

/-- What came of the operations among the steps, in their order. -/
def repliesOf (steps : List Step) (entries : List Entry) : List Reply :=
  (steps.zip entries).filterMap fun (step, entry) ↦ step.operation?.map entry.reply

theorem repliesOf_cons (step : Step) (steps : List Step) (entry : Entry) (entries : List Entry) :
    repliesOf (step :: steps) (entry :: entries) =
      (step.operation?.map entry.reply).toList ++ repliesOf steps entries := by
  unfold repliesOf
  rw [List.zip_cons_cons, List.filterMap_cons]
  cases step <;> rfl

/-- No reply tells which journal was open. -/
theorem repliesOf_entriesFrom (host : Host) (style : Journal.Style) (journal : Option Journal)
    (steps : List Step) :
    repliesOf steps (entriesFrom host style journal steps) =
      (operations steps).flatMap fun operation ↦
        repliesOf [.perform operation] (entriesFrom host style none [.perform operation]) := by
  induction steps generalizing journal with
  | nil => rfl
  | cons step steps ih =>
    rw [entriesFrom, repliesOf_cons, ih]
    cases step <;> rfl

/-! ## The first opening -/

/-- Whatever the steps of a session are, however its journal is styled and whoever keeps it, each
step has its entry, which depends on the first opening before it and on nothing else. -/
theorem run_keeps_first_opening (keeper : Journal.Keeper) (hkeeper : keeper.TakesOne) (host : Host)
    (style : Journal.Style) (steps : List Step) :
    let run (steps : List Step) : List Entry := Session.run host steps style keeper
    let replies (steps : List Step) : List Reply := repliesOf steps (run steps)
    (run steps).length = steps.length ∧
    (∀ before step after, steps = before ++ step :: after →
      ∃ entry, (run steps)[before.length]? = some entry ∧
      match firstOpening? before, step with
      | none, .openJournal debug =>
        entry = ⟨.opened (.ok ()), [], some (opened style debug)⟩
      | some first, .openJournal _ =>
        entry = ⟨.opened (.error (.noLog ("Failed to initialize logging: " ++
          "a global default trace dispatcher has already been set").toList)), [],
          some (opened style first)⟩
      | none, .perform operation =>
        entry.effects.entries entry.journal = [] ∧ run [.perform operation] = [entry]
      | some first, .perform operation =>
        run [.openJournal first, .perform operation] =
            [⟨.opened (.ok ()), [], some (opened style first)⟩, entry] ∧
          ∃ alone, run [.perform operation] = [alone] ∧ entry.answer = alone.answer ∧
            entry.stdout = alone.stdout ∧
            Woven (entry.effects.entries entry.journal) alone.stderr entry.stderr) ∧
    replies steps = (operations steps).flatMap (fun operation ↦ replies [.perform operation]) ∧
    ∀ steps', (operations steps).Perm (operations steps') →
      (replies steps).Perm (replies steps') := by
  intro run replies
  have hrun (steps : List Step) : run steps = entriesFrom host style none steps :=
    run_eq hkeeper host style steps
  have hreplies (steps : List Step) :
      replies steps = (operations steps).flatMap fun operation ↦ replies [.perform operation] := by
    unfold replies
    simp only [hrun, repliesOf_entriesFrom host style none steps]
  refine ⟨by rw [hrun, length_entriesFrom], ?_, hreplies steps, ?_⟩
  · rintro before step after rfl
    simp only [hrun]
    refine ⟨_, getElem?_entriesFrom host style before step after, ?_⟩
    cases hfirst : firstOpening? before with
    | none =>
      cases step with
      | openJournal debug => rfl
      | perform operation => exact ⟨entries_none _, rfl⟩
    | some first =>
      cases step with
      | openJournal debug => rfl
      | perform operation =>
        let effects := (operation.perform host []).1.1
        have hstderr : Woven (effects.entries (some (opened style first))) (effects.stderr none)
            (effects.stderr (some (opened style first))) := by
          rw [stderr_none]
          exact woven_stderr _ _
        exact ⟨rfl, _, rfl, rfl, rfl, hstderr⟩
  · intro steps' hoperations
    rw [hreplies steps, hreplies steps']
    exact hoperations.flatMap_right _

/-- Debugging stays on though a later step asks for it to be off, and the request is logged as if
that step had not been there. -/
theorem run_keeps_first_opening_of_second_opening :
    let host : Host := ⟨.accepts, fun _ _ ↦ .error .missing⟩
    let request : Step := .perform (.unpack [[0x35], [0x68], [0x65], [0x63]])
    let run (steps : List Step) : List Entry := Session.run host steps .coloured .single
    let steps := [.openJournal true, .openJournal false, request]
    Journal.Keeper.single.TakesOne ∧
      (run steps)[1]? = some ⟨.opened (.error alreadyOpen), [], some ⟨.everything, .coloured⟩⟩ ∧
      ∃ entry, (run steps)[2]? = some entry ∧
        run [.openJournal true, request] =
          [⟨.opened (.ok ()), [], some ⟨.everything, .coloured⟩⟩, entry] := by
  intro host request run steps
  obtain ⟨-, hentries, -⟩ := run_keeps_first_opening .single Journal.Keeper.takesOne_single host
    .coloured steps
  obtain ⟨refused, hrefused, rfl⟩ := hentries [.openJournal true] (.openJournal false) [request] rfl
  obtain ⟨entry, hentry, halone, -⟩ :=
    hentries [.openJournal true, .openJournal false] request [] rfl
  exact ⟨Journal.Keeper.takesOne_single, hrefused, entry, hentry, halone⟩

end Session

end ContainerLaunch
