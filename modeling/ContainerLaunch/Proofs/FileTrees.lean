import ContainerLaunch.Rehearsal.FileTree
import Mathlib.Data.List.Basic

/-!
# Where paths lead

A walk along a path ends at a place or with one of four errors, whichever links it leads through,
and a program is found or refused with one of these or because what was found is no tool.  Where no
link is met a walk goes on name by name, and so it can be followed: that every tool is found by its
name alone, past the directories that do not have it, is told from such walks.
-/

namespace ContainerLaunch.Rehearsal

/-! ## Errors that can come -/

section Fails

variable {α β : Type} {causes : List SystemError} {outcome : Except SystemError α}

/-- If it fails, it is with one of these errors. -/
def FailsWith (causes : List SystemError) (outcome : Except SystemError α) : Prop :=
  ∀ cause, outcome = .error cause → cause ∈ causes

theorem failsWith_ok (value : α) : FailsWith causes (.ok value) := nofun

theorem failsWith_error {cause : SystemError} (h : cause ∈ causes) :
    FailsWith causes (.error cause : Except SystemError α) := by
  rintro _ ⟨⟩
  exact h

theorem FailsWith.bind {next : α → Except SystemError β} (h : FailsWith causes outcome)
    (hnext : ∀ value, FailsWith causes (next value)) : FailsWith causes (outcome >>= next) := by
  cases outcome with
  | error cause => exact failsWith_error (h cause rfl)
  | ok value => exact hnext value

theorem FailsWith.mono {more : List SystemError} (h : FailsWith causes outcome)
    (hmore : causes ⊆ more) : FailsWith more outcome := fun cause hcause ↦ hmore (h cause hcause)

end Fails

namespace FileTree

open SystemError

/-- What a path can come to instead of a place. -/
def pathErrors : List SystemError := [missing, notDirectory, nameTooLong, tooManyLinks]

/-- What the name of a program can come to instead of a tool. -/
def programErrors : List SystemError := forbidden :: pathErrors

theorem failsWith_walk (tree : FileTree) (links : Nat) (here : Place) (names : List Bytes) :
    FailsWith pathErrors (tree.walk links here names) := by
  fun_induction walk tree links here names with
  | case1 => exact failsWith_ok _
  | case2 | case5 | case6 | case7 => exact failsWith_error (by decide)
  | case3 _ _ _ _ ih | case4 _ _ _ _ _ ih | case8 _ _ _ _ _ _ _ _ _ _ ih
    | case9 _ _ _ _ _ _ _ _ _ _ _ ih => exact ih

theorem failsWith_reach (tree : FileTree) (working : Place) (path : Bytes) :
    FailsWith pathErrors (tree.reach working path) := by
  unfold reach
  split
  next => exact failsWith_error (by decide)
  next =>
    split
    next => exact failsWith_error (by decide)
    next => exact failsWith_walk tree _ _ _

theorem failsWith_resolve (tree : FileTree) (working : Place) (path : Bytes) :
    FailsWith pathErrors (tree.resolve working path) := by
  refine (failsWith_reach tree working path).bind fun place ↦ ?_
  cases tree.nodeAt place with
  | none => exact failsWith_error (by decide)
  | some node => exact failsWith_ok node

theorem failsWith_toolAt (tree : FileTree) (working : Place) (path : Bytes) :
    FailsWith programErrors (tree.toolAt working path) := by
  have hresolve := (failsWith_resolve tree working path).mono (List.subset_cons_self forbidden _)
  refine hresolve.bind fun node ↦ ?_
  cases node with
  | tool tool => exact failsWith_ok tool
  | directory | file | device | link => exact failsWith_error (by decide)

/-- An error in one directory keeps the search from the later ones only where it leaves open what
there is. -/
theorem failsWith_search (tree : FileTree) (working : Place) (name : Bytes) (met : Bool)
    (directories : List Bytes) :
    FailsWith programErrors (tree.search working name met directories) := by
  induction directories generalizing met with
  | nil => cases met <;> exact failsWith_error (by decide)
  | cons directory later ih =>
    have hresolve := failsWith_resolve tree working (directory ++ Ascii.slash :: name)
    unfold search
    split
    next => exact failsWith_ok _
    next => exact ih true
    next cause hcause =>
      split
      next => exact ih met
      next => exact failsWith_error (List.mem_cons_of_mem _ (hresolve cause hcause))

theorem failsWith_locate (tree : FileTree) (program : Bytes) :
    FailsWith programErrors (tree.locate program) := by
  unfold locate
  split
  next => exact failsWith_toolAt tree _ program
  next =>
    split
    next => exact failsWith_error (by decide)
    next =>
      split
      next => exact failsWith_error (by decide)
      next => exact failsWith_search tree _ program _ _

/-! ## Walks that meet no link -/

/-- A walk as long as there are only plain names that lead to something else than links. -/
def stroll? (tree : FileTree) : Place → List Bytes → Option (Except SystemError Place)
  | here, [] => some (.ok here)
  | here, name :: later =>
    if tree.nodeAt here ≠ some .directory then some (.error .notDirectory)
    else if name = Path.here ∨ name = Path.above ∨ longestName < name.length then none
    else
      match tree.nodeAt (here ++ [name]) with
      | none => some (.error .missing)
      | some (.link _) => none
      | some _ => tree.stroll? (here ++ [name]) later

theorem walk_eq_of_stroll? {tree : FileTree} {here : Place} {names : List Bytes}
    {outcome : Except SystemError Place} (links : Nat)
    (h : tree.stroll? here names = some outcome) :
    tree.walk links here names = outcome := by
  induction names generalizing here with
  | nil =>
    rw [walk]
    exact Option.some.inj h
  | cons name later ih =>
    unfold stroll? at h
    rw [walk]
    split at h
    next hnode =>
      rw [if_pos hnode]
      exact Option.some.inj h
    next hnode =>
      rw [if_neg hnode]
      split at h
      next => cases h
      next hplain =>
        rw [not_or, not_or] at hplain
        obtain ⟨hhere, habove, hshort⟩ := hplain
        rw [if_neg hhere, if_neg habove, if_neg hshort]
        generalize tree.nodeAt (here ++ [name]) = found at h ⊢
        cases found with
        | none => exact Option.some.inj h
        | some node =>
          cases node with
          | link => cases h
          | directory | file | device | tool => exact ih h

/-! ## Tools -/

/-- By a walk without links the path comes to this place or error. -/
def Strolls (tree : FileTree) (working : Place) (path : Bytes)
    (outcome : Except SystemError Place) : Prop :=
  path.isEmpty = false ∧ path.length < longestPath ∧ Path.endsWithSlash path = false ∧
    tree.stroll? (origin working path) (Path.names path) = some outcome

instance (tree : FileTree) (working : Place) (path : Bytes) (outcome : Except SystemError Place) :
    Decidable (tree.Strolls working path outcome) :=
  inferInstanceAs (Decidable (_ ∧ _ ∧ _ ∧ _))

variable {tree : FileTree} {working : Place}

theorem Strolls.reach_eq {path : Bytes} {outcome : Except SystemError Place}
    (h : tree.Strolls working path outcome) : tree.reach working path = outcome := by
  obtain ⟨hsome, hshort, hslash, hstroll⟩ := h
  rw [reach, if_neg (Bool.eq_false_iff.mp hsome), if_neg (Nat.not_le.mpr hshort)]
  simp only [hslash, Bool.false_eq_true, if_false, List.append_nil]
  exact walk_eq_of_stroll? mostLinks hstroll

theorem Strolls.resolve_of_ok {path : Bytes} {place : Place} {node : Node}
    (h : tree.Strolls working path (.ok place)) (hnode : tree.nodeAt place = some node) :
    tree.resolve working path = .ok node := by
  unfold resolve
  rw [h.reach_eq]
  simp only [bind, Except.bind, hnode]

theorem Strolls.resolve_of_error {path : Bytes} {cause : SystemError}
    (h : tree.Strolls working path (.error cause)) : tree.resolve working path = .error cause := by
  rw [resolve, h.reach_eq]
  rfl

/-- Directories that do not have it are passed. -/
theorem search_append_of_missing {name : Bytes} {front : List Bytes}
    (h : ∀ directory ∈ front,
      tree.resolve working (directory ++ Ascii.slash :: name) = .error .missing)
    (met : Bool) (later : List Bytes) :
    tree.search working name met (front ++ later) = tree.search working name met later := by
  induction front with
  | nil => rfl
  | cons directory front ih =>
    rw [List.forall_mem_cons] at h
    rw [List.cons_append, search, h.1]
    exact (if_pos (.inl rfl)).trans (ih h.2)

/-- Every tool is found by its name alone. -/
theorem locate_tools : ∀ entry ∈ tools,
    standard.locate (Utf8.ofString entry.1) = .ok entry.2 := by
  have hpath : searchPath =
      searchPath.take 3 ++ Utf8.ofString "/usr/bin" :: searchPath.drop 4 := by decide
  have hnames : ∀ entry ∈ tools, (Utf8.ofString entry.1).contains Ascii.slash = false ∧
      (Utf8.ofString entry.1).isEmpty = false ∧ (Utf8.ofString entry.1).length ≤ longestName := by
    decide
  -- one look at the tree for all its tools
  have hstrolls : ∀ entry ∈ tools,
      (∀ directory ∈ searchPath.take 3, standard.Strolls workingDirectory
        (directory ++ Ascii.slash :: Utf8.ofString entry.1) (.error .missing)) ∧
      standard.Strolls workingDirectory
        (Utf8.ofString "/usr/bin" ++ Ascii.slash :: Utf8.ofString entry.1)
        (.ok (place "/usr/bin" ++ [Utf8.ofString entry.1])) ∧
      standard.nodeAt (place "/usr/bin" ++ [Utf8.ofString entry.1]) = some (.tool entry.2) := by
    decide +kernel
  intro entry hentry
  obtain ⟨hslash, hempty, hlength⟩ := hnames entry hentry
  obtain ⟨hmissing, hfound, hnode⟩ := hstrolls entry hentry
  rw [locate, if_neg (Bool.eq_false_iff.mp hslash), if_neg (Bool.eq_false_iff.mp hempty),
    if_neg (Nat.not_lt.mpr hlength), hpath,
    search_append_of_missing fun directory hdirectory ↦
      (hmissing directory hdirectory).resolve_of_error,
    search, hfound.resolve_of_ok hnode]

end FileTree

end ContainerLaunch.Rehearsal
