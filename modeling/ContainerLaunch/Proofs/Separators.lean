import ContainerLaunch.Text.Basic
import Mathlib.Data.List.Infix

/-!
# Separators

What is put together with something between its parts can be cut there again.  Where it is cut in
two, the place is the last at which the mark stands; where it is cut everywhere, there is one part
more than there are separators, and these are the parts it was put together from when they have no
separator of their own.
-/

namespace ContainerLaunch

variable {α : Type}

/-! ## The last mark -/

/-- A list can be cut at the last of its marks in one way only.  A mark may overlap the next one,
so none begins within the mark either. -/
theorem append_mark_inj {item : α} {mark front front' tail tail' : List α}
    (htail : ¬item :: mark <:+: mark ++ tail) (htail' : ¬item :: mark <:+: mark ++ tail')
    (h : front ++ item :: (mark ++ tail) = front' ++ item :: (mark ++ tail')) :
    front = front' ∧ tail = tail' := by
  have hno {between rest tail : List α} (htail : ¬item :: mark <:+: mark ++ tail)
      (hcut : item :: (mark ++ tail) = between ++ item :: (mark ++ rest)) : between = [] := by
    cases between with
    | nil => rfl
    | cons first between =>
      rw [List.cons_append] at hcut
      refine absurd ⟨between, rest, ?_⟩ htail
      rw [(List.cons.inj hcut).2, List.append_assoc, List.cons_append]
  rcases List.append_eq_append_iff.mp h with ⟨between, rfl, hcut⟩ | ⟨between, rfl, hcut⟩
  · obtain rfl := hno htail hcut
    exact ⟨(List.append_nil _).symm, List.append_cancel_left (List.cons.inj hcut).2⟩
  · obtain rfl := hno htail' hcut
    exact ⟨List.append_nil _, (List.append_cancel_left (List.cons.inj hcut).2).symm⟩

theorem append_cons_inj_of_notMem {separator : α} {front front' tail tail' : List α}
    (htail : separator ∉ tail) (htail' : separator ∉ tail')
    (h : front ++ separator :: tail = front' ++ separator :: tail') :
    front = front' ∧ tail = tail' := by
  rw [← List.singleton_infix_iff] at htail htail'
  exact append_mark_inj htail htail' h

/-- What stands before the last separator, and what stands after it. -/
def cutAtLast? [DecidableEq α] (separator : α) : List α → Option (List α × List α)
  | [] => none
  | item :: items =>
    match cutAtLast? separator items with
    | some (front, tail) => some (item :: front, tail)
    | none => if item = separator then some ([], items) else none

theorem cutAtLast?_of_notMem [DecidableEq α] {separator : α} {items : List α}
    (h : separator ∉ items) : cutAtLast? separator items = none := by
  induction items with
  | nil => rfl
  | cons item items ih =>
    rw [List.mem_cons, not_or] at h
    rw [cutAtLast?, ih h.2]
    exact if_neg (Ne.symm h.1)

theorem cutAtLast?_append_cons [DecidableEq α] {separator : α} {tail : List α}
    (front : List α) (h : separator ∉ tail) :
    cutAtLast? separator (front ++ separator :: tail) = some (front, tail) := by
  induction front with
  | nil =>
    rw [List.nil_append, cutAtLast?, cutAtLast?_of_notMem h]
    exact if_pos rfl
  | cons item front ih => rw [List.cons_append, cutAtLast?, ih]

/-! ## All separators -/

theorem length_splitOn [BEq α] [LawfulBEq α] (separator : α) (items : List α) :
    (items.splitOn separator).length = items.count separator + 1 := by
  induction items with
  | nil => rfl
  | cons item items ih =>
    rw [List.splitOn_cons_eq_if_modifyHead, List.count_cons]
    split
    next => rw [List.length_cons, ih]
    next => rw [List.length_modifyHead, ih, Nat.add_zero]

theorem intercalate_cons (separator part : List α) (parts : List (List α)) :
    separator.intercalate (part :: parts) = part ++ parts.flatMap (separator ++ ·) := by
  induction parts generalizing part with
  | nil => simp
  | cons next parts ih =>
    rw [List.intercalate_cons_cons, ih next]
    simp

theorem join_cons (separator part : Text) (parts : List Text) :
    Text.join separator (part :: parts) = part ++ parts.flatMap (separator ++ ·) :=
  intercalate_cons separator part parts

/-- Between every two parts there is one more separator. -/
theorem count_join (c : Char) (separator part : Text) (parts : List Text) :
    (Text.join separator (part :: parts)).count c =
      (part :: parts).flatten.count c + parts.length * separator.count c := by
  rw [join_cons, List.flatten_cons, List.count_append, List.count_append]
  induction parts with
  | nil => simp
  | cons next parts ih =>
    simp only [List.flatMap_cons, List.flatten_cons, List.count_append, List.length_cons,
      Nat.add_mul, Nat.one_mul] at ih ⊢
    omega

/-- A joined list falls into its own parts only where none of them holds the separator. -/
theorem splitOn_join_eq_iff {parts : List Text} (hne : parts ≠ []) (separator : Char) :
    (Text.join [separator] parts).splitOn separator = parts ↔
      ∀ part ∈ parts, separator ∉ part := by
  constructor
  · intro h
    have hlength := congrArg List.length h
    obtain ⟨part, others, rfl⟩ := List.exists_cons_of_ne_nil hne
    rw [length_splitOn, count_join, List.count_singleton_self, List.length_cons] at hlength
    have hnone : (part :: others).flatten.count separator = 0 := by omega
    intro next hnext hseparator
    exact List.count_eq_zero.mp hnone (List.mem_flatten.mpr ⟨next, hnext, hseparator⟩)
  · intro h
    exact List.splitOn_intercalate separator h hne

end ContainerLaunch
