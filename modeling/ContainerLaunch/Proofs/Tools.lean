import ContainerLaunch.Proofs.WaitStatuses
import ContainerLaunch.Rehearsal.Host
import Mathlib.Data.List.Basic

/-!
# Tools of a rehearsal

What can be relied on in a tool that a rehearsal carries out.  Its code is two at the most.  The
tool that echoes prints its words as they are.  The one that concatenates prints what it finds at
its operands, one after another, and its code tells whether it has taken all of them.
-/

namespace ContainerLaunch.Rehearsal

variable {tool : Tool} {scene : Scene} {arguments : List Bytes} {performance : Performance}

/-- What a tool finds when it is started by itself. -/
def firstScene (program stdin : Bytes) : Scene where
  program
  tree := .standard
  working := FileTree.workingDirectory
  stdin

/-- Every tool but the shell does what it does at once. -/
theorem exists_perform_eq_some (h : tool ≠ .shell) (scene : Scene) (arguments : List Bytes) :
    ∃ performance, perform tool scene arguments = some performance := by
  cases tool with
  | shell => exact absurd rfl h
  | echo | succeed | fail | concatenate | search => exact ⟨_, rfl⟩

theorem carryOut_of_perform {command : Command} {stdin : Bytes}
    (h : perform tool (firstScene command.program stdin) command.arguments = some performance) :
    carryOut tool command stdin = performance.child := by
  unfold firstScene at h
  unfold carryOut
  simp only [h]

/-! ## Codes -/

theorem ite_le_of_le {p : Prop} [Decidable p] {a b bound : Nat} (ha : a ≤ bound) (hb : b ≤ bound) :
    (if p then a else b) ≤ bound := by
  split <;> assumption

theorem code_concatenate_le (scene : Scene) (arguments : List Bytes) :
    (concatenate scene arguments).code ≤ 1 := by
  unfold concatenate
  dsimp only
  split
  next => exact Nat.le_refl 1
  next => exact ite_le_of_le (Nat.le_refl 1) (Nat.zero_le 1)

theorem code_run_le (search : Search) (scene : Scene) (patterns : List Bytes) :
    (search.run scene patterns).code ≤ 2 := by
  unfold Search.run
  dsimp only
  split
  next => exact Nat.le_refl 2
  next =>
    rw [apply_ite Performance.code]
    exact ite_le_of_le (Nat.le_succ 1)
      (ite_le_of_le (Nat.le_refl 2) (ite_le_of_le (Nat.zero_le 2) (Nat.le_succ 1)))

theorem code_search_le (scene : Scene) (arguments : List Bytes) :
    (search scene arguments).code ≤ 2 := by
  unfold search
  dsimp only
  split
  next => exact Nat.le_refl 2
  next => exact Nat.le_succ 1
  next => exact Nat.le_refl 2
  next =>
    split
    next => exact code_run_le _ _ _
    next => exact Nat.le_refl 2
    next => exact code_run_le _ _ _

/-- Two is the highest code of a tool, and tells of trouble. -/
theorem code_le_of_perform (h : perform tool scene arguments = some performance) :
    performance.code ≤ 2 := by
  cases tool with
  | shell => cases h
  | echo | succeed =>
    obtain rfl := Option.some.inj h
    exact Nat.zero_le 2
  | fail =>
    obtain rfl := Option.some.inj h
    exact Nat.le_succ 1
  | concatenate =>
    obtain rfl := Option.some.inj h
    exact Nat.le_succ_of_le (code_concatenate_le scene arguments)
  | search =>
    obtain rfl := Option.some.inj h
    exact code_search_le scene arguments

theorem final_child (performance : Performance) : performance.child.status.Final := .exited _

/-- The code of a tool is the code that its child ends with. -/
theorem exitCode_child (h : perform tool scene arguments = some performance) :
    performance.child.status.exitCode = performance.code := by
  have hcode := code_le_of_perform h
  rw [Performance.child, WaitStatus.exitCode_of_hasExited (WaitStatus.hasExited_exited _),
    UInt8.toNat_ofNat']
  exact Nat.mod_eq_of_lt (by omega)

/-! ## Echo -/

/-- Words that do not begin with an option are printed with a blank between every two. -/
theorem echo_of_head (h : ∀ first ∈ arguments.head?, isEchoOption first = false) :
    echo arguments = [Ascii.blank].intercalate arguments ++ [Ascii.newline] := by
  have htake : arguments.takeWhile isEchoOption = [] := by
    cases arguments with
    | nil => rfl
    | cons first later => exact List.takeWhile_cons_of_neg (by rw [h first rfl]; decide)
  have hdrop : arguments.dropWhile isEchoOption = arguments := by
    cases arguments with
    | nil => rfl
    | cons first later => exact List.dropWhile_cons_of_neg (by rw [h first rfl]; decide)
  unfold echo
  rw [htake, hdrop]
  rfl

/-! ## Concatenation -/

theorem Options.read_of_operands (options : Options)
    (h : ∀ argument ∈ arguments, ∀ first letters, argument ≠ 0x2D :: first :: letters) :
    options.read arguments = ⟨arguments.map .operand, none⟩ := by
  induction arguments with
  | nil => rfl
  | cons argument later ih =>
    rw [List.forall_mem_cons] at h
    obtain ⟨hargument, hlater⟩ := h
    rw [read, ih hlater]
    · rfl
    all_goals
      intros
      apply hargument
      assumption

namespace Found

/-- The bytes that are printed of an operand. -/
def content : Found → Bytes
  | bytes content => content
  | target _ | directory | nothing _ => []

/-- Nothing has to be said of it; a file that is read and written at once may be empty. -/
def isTaken : Found → Bool
  | bytes _ => true
  | target content => content.isEmpty
  | directory | nothing _ => false

end Found

namespace Concatenation

variable {concatenation : Concatenation}

theorem foldl_take_operands (operands : List Bytes) (concatenation : Concatenation) :
    (operands.map Options.Item.operand).foldl take concatenation =
      { concatenation with operands := concatenation.operands ++ operands } := by
  induction operands generalizing concatenation with
  | nil =>
    rw [List.append_nil]
    rfl
  | cons operand later ih =>
    rw [List.map_cons, List.foldl_cons, ih, List.append_cons]
    rfl

/-- Something is said on standard error exactly of the operands that are not taken. -/
theorem any_err_speak (concatenation : Concatenation) (scene : Scene) (progress : Progress)
    (operands : List (Bytes × Found)) :
    (concatenation.speak scene progress operands).any (·.1 = .err) =
      (operands.map Prod.snd).any fun found ↦ !found.isTaken := by
  induction operands generalizing progress with
  | nil => rfl
  | cons operand later ih =>
    obtain ⟨operand, found⟩ := operand
    cases found with
    | bytes content => exact ih _
    | target content =>
      cases content with
      | nil => exact ih _
      | cons => rfl
    | directory | nothing reason => rfl

/-- Without options the operands are printed as they are. -/
theorem heard_speak_of_isPlain (h : concatenation.isPlain = true) (scene : Scene)
    (operands : List (Bytes × Found)) (code : Nat) (unread : Bytes) :
    Performance.heard ⟨concatenation.speak scene {} operands, code, unread⟩ .out =
      operands.flatMap (·.2.content) := by
  induction operands with
  | nil => rfl
  | cons operand later ih =>
    obtain ⟨operand, found⟩ := operand
    cases found with
    | bytes content =>
      have hprint : Progress.printAll concatenation {} content = ({}, content) := if_pos h
      simp only [speak, hprint]
      exact congrArg (content ++ ·) ih
    | target content => cases content <;> exact ih
    | directory | nothing reason => exact ih

end Concatenation

/-- Operands are printed one after another and nothing between them, and the code is zero exactly
where each of them has been taken. -/
theorem concatenate_operands (scene : Scene) (htrouble : scene.trouble = none)
    (h : ∀ argument ∈ arguments, ∀ first letters, argument ≠ 0x2D :: first :: letters) :
    let performance := concatenate scene arguments
    let found := (scene.readOperands arguments).map Prod.snd
    performance.heard .out = found.flatMap Found.content ∧
      (performance.code = 0 ↔ ∀ operand ∈ found, operand.isTaken = true) := by
  intro performance found
  let concatenation : Concatenation := { operands := arguments }
  let said := concatenation.speak scene {} (scene.readOperands arguments)
  have hperformance : performance =
      ⟨said, if said.any (·.1 = .err) then 1 else 0, scene.unread arguments⟩ := by
    have htake : (arguments.map Options.Item.operand).foldl Concatenation.take {} =
        concatenation := Concatenation.foldl_take_operands arguments {}
    unfold performance concatenate
    rw [Concatenation.options.read_of_operands h]
    simp only [htake, htrouble, reduceCtorEq, decide_false, Bool.false_and, Bool.false_eq_true,
      if_false, List.append_nil]
    rfl
  have hsaid := Concatenation.any_err_speak concatenation scene {} (scene.readOperands arguments)
  rw [hperformance]
  refine ⟨?_, ?_⟩
  · rw [Concatenation.heard_speak_of_isPlain rfl, List.flatMap_map]
  · calc
      _ ↔ ¬said.any (·.1 = .err) = true := ite_eq_right_iff.trans (imp_congr_right fun _ ↦ by simp)
      _ ↔ ¬(found.any fun operand ↦ !operand.isTaken) = true := by rw [← hsaid]
      _ ↔ _ := by simp

end ContainerLaunch.Rehearsal
