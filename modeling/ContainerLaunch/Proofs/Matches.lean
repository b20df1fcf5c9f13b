import ContainerLaunch.Rehearsal.Search.Lines
import Mathlib.Data.List.Basic

/-!
# Strings that are found

From a place in a line an expression leads forward, and never beyond the end of the line.  This is
proved constructor by constructor, with a run of rounds for what is repeated.  So the strings that
a search finds are parts of the line which lie apart; each of them is described by one of the
expressions and counts, and none that begins at the same place and counts is longer.
-/

namespace ContainerLaunch.Rehearsal

namespace Expression

/-! ## Where expressions lead -/

namespace Line

variable {line : Line} {reached after : Reached} {first middle last : Nat}

/-- The way from one place to another goes forward and stays within the line. -/
def Forward (line : Line) (first last : Nat) : Prop :=
  first ≤ last ∧ last ≤ max first line.bytes.size

theorem forward_refl (line : Line) (place : Nat) : line.Forward place place :=
  ⟨Nat.le_refl place, Nat.le_max_left place _⟩

theorem forward_of_le_size (h : first ≤ last) (hlast : last ≤ line.bytes.size) :
    line.Forward first last :=
  ⟨h, Nat.le_trans hlast (Nat.le_max_right first _)⟩

theorem Forward.trans (h : line.Forward first middle) (h' : line.Forward middle last) :
    line.Forward first last := by
  unfold Forward at *
  omega

theorem lt_size_of_getElem? {place : Nat} {b : UInt8} (h : line.bytes[place]? = some b) :
    place < line.bytes.size :=
  (Array.getElem?_eq_some_iff.mp h).1

theorem forward_of_mem_step {condition : UInt8 → Bool} (h : after ∈ line.step reached condition) :
    line.Forward reached.place after.place := by
  unfold step at h
  split at h
  next hbyte =>
    obtain ⟨b, hb, -⟩ := (Option.any_eq_true _ _).mp hbyte
    obtain rfl := List.mem_singleton.mp h
    exact forward_of_le_size (Nat.le_succ _) (lt_size_of_getElem? hb)
  next => cases h

theorem forward_of_mem_stepBack (h : after ∈ line.stepBack reached first last) :
    line.Forward reached.place after.place := by
  unfold stepBack at h
  dsimp only at h
  split at h
  next hagrees =>
    obtain rfl := List.mem_singleton.mp h
    cases hlength : last - first with
    | zero => exact forward_refl line reached.place
    | succ before =>
      -- the last byte of the group has been compared with one of the line
      have hsame := List.all_eq_true.mp hagrees before (List.mem_range.mpr (by omega))
      split at hsame
      next _ hb =>
        have hplace := lt_size_of_getElem? hb
        exact forward_of_le_size (Nat.le_add_right _ _) hplace
      next => cases hsame
  next => cases h

end Line

variable {line : Line} {reached after : Reached}

/-- However many rounds are made, if each of them leads forward. -/
theorem forward_of_mem_roundsFrom {step : Reached → List Reached}
    (hstep : ∀ reached, ∀ after ∈ step reached, line.Forward reached.place after.place)
    {fuel least : Nat} {most : Option Nat} {places : List Reached}
    (h : after ∈ roundsFrom step fuel least most places) :
    ∃ reached ∈ places, line.Forward reached.place after.place := by
  induction fuel generalizing least most places with
  | zero => cases h
  | succ fuel ih =>
    unfold roundsFrom at h
    dsimp only at h
    split at h
    next => cases h
    next =>
      split at h
      next =>
        obtain ⟨middle, hmiddle, hafter⟩ := ih h
        obtain ⟨reached, hreached, hround⟩ := List.mem_flatMap.mp (List.mem_eraseDups.mp hmiddle)
        exact ⟨reached, hreached, (hstep reached middle hround).trans hafter⟩
      next =>
        split at h
        next => exact ⟨after, h, line.forward_refl after.place⟩
        next =>
          rcases List.mem_append.mp h with h | h
          · exact ⟨after, h, line.forward_refl after.place⟩
          · obtain ⟨middle, hmiddle, hafter⟩ := ih h
            obtain ⟨reached, hreached, hround⟩ :=
              List.mem_flatMap.mp (List.mem_eraseDups.mp hmiddle)
            have hmiddle := hstep reached middle (List.mem_of_mem_filter hround)
            exact ⟨reached, hreached, hmiddle.trans hafter⟩

theorem forward_of_mem_ends {expression : Expression} (h : after ∈ ends line expression reached) :
    line.Forward reached.place after.place := by
  induction expression generalizing reached after with
  | empty =>
    obtain rfl := List.mem_singleton.mp h
    exact line.forward_refl _
  | byte | any | set => exact Line.forward_of_mem_step h
  | anchor =>
    unfold ends at h
    split at h
    next =>
      obtain rfl := List.mem_singleton.mp h
      exact line.forward_refl _
    next => cases h
  | group number inner ih =>
    obtain ⟨within, hwithin, rfl⟩ := List.mem_map.mp h
    have hforward := ih hwithin
    exact hforward
  | back number =>
    unfold ends at h
    split at h
    next => exact Line.forward_of_mem_stepBack h
    next => cases h
  | sequence first second ihfirst ihsecond =>
    obtain ⟨middle, hmiddle, hafter⟩ :
        ∃ middle ∈ ends line first reached, after ∈ ends line second middle := by
      unfold ends at h
      split at h
      next => cases h
      next middle hmiddle => exact ⟨middle, by rw [hmiddle]; exact List.mem_singleton_self _, h⟩
      next => exact List.mem_flatMap.mp (List.mem_eraseDups.mp h)
    exact (ihfirst hmiddle).trans (ihsecond hafter)
  | choice first second ihfirst ihsecond =>
    unfold ends at h
    rcases List.mem_append.mp (List.mem_eraseDups.mp h) with h | h
    · exact ihfirst h
    · exact ihsecond h
  | repeated inner least most ih =>
    unfold ends at h
    obtain ⟨start, hstart, hafter⟩ :=
      forward_of_mem_roundsFrom (fun _ _ ↦ ih) (List.mem_eraseDups.mp h)
    rwa [List.mem_singleton.mp hstart] at hafter

theorem forward_of_mem_endsFrom {expression : Expression} {first last : Nat}
    (h : last ∈ expression.endsFrom line first) : line.Forward first last := by
  obtain ⟨after, hafter, rfl⟩ := List.mem_map.mp h
  exact forward_of_mem_ends hafter

end Expression

/-! ## What is found in a line -/

namespace Search

open Expression (Line)

variable {search : Search} {expressions : List Expression} {line : Line} {first last : Nat}

theorem mem_endsAt_iff :
    last ∈ search.endsAt expressions line first ↔
      (∃ expression ∈ expressions, last ∈ expression.endsFrom line first) ∧
        search.counts line first last = true := by
  simp only [endsAt, List.mem_flatMap, List.mem_filter]
  constructor
  · rintro ⟨expression, hexpression, hlast, hcounts⟩
    exact ⟨⟨expression, hexpression, hlast⟩, hcounts⟩
  · rintro ⟨⟨expression, hexpression, hlast⟩, hcounts⟩
    exact ⟨expression, hexpression, hlast, hcounts⟩

/-- A part of the line at its place, which is what expressions and options ask for, and the longest
that begins there. -/
structure Finds (search : Search) (expressions : List Expression) (line : Line)
    (finding : Nat × Bytes) : Prop where
  ne_nil : finding.2 ≠ []
  part_eq : finding.2 = (line.bytes.toList.drop finding.1).take finding.2.length
  mem_endsAt : finding.1 + finding.2.length ∈ search.endsAt expressions line finding.1
  longest : ∀ last ∈ search.endsAt expressions line finding.1,
    last ≤ finding.1 + finding.2.length

theorem length_extract (h : first ≤ last) (hlast : last ≤ line.bytes.size) :
    first + (line.bytes.extract first last).toList.length = last := by
  rw [Array.length_toList, Array.size_extract]
  omega

theorem finds_of_lt (h : first < (search.endsAt expressions line first).foldl max first) :
    let last := (search.endsAt expressions line first).foldl max first
    let string := (line.bytes.extract first last).toList
    first + string.length = last ∧ search.Finds expressions line (first, string) := by
  intro last string
  have hlt : first < last := h
  have hlargest : last ∈ first :: search.endsAt expressions line first ∧
      ∀ other ∈ first :: search.endsAt expressions line first, other ≤ last :=
    List.max?_eq_some_iff.mp List.max?_cons'
  have hlast : last ∈ search.endsAt expressions line first :=
    (List.mem_cons.mp hlargest.1).resolve_left (Nat.ne_of_gt hlt)
  have hsize : last ≤ line.bytes.size := by
    obtain ⟨⟨expression, -, hends⟩, -⟩ := mem_endsAt_iff.mp hlast
    have hforward := (Expression.forward_of_mem_endsFrom hends).2
    omega
  have hlength : first + string.length = last := length_extract (Nat.le_of_lt hlt) hsize
  refine ⟨hlength, ?_, ?_, ?_, ?_⟩
  · have hpos : 0 < string.length := by omega
    exact List.ne_nil_of_length_pos hpos
  · have hstring : string = (line.bytes.toList.drop first).take (last - first) :=
      Array.toList_extract
    have hcount : last - first = string.length := by omega
    rwa [hcount] at hstring
  · rwa [hlength]
  · rw [hlength]
    exact fun other hother ↦ hlargest.2 other (List.mem_cons_of_mem first hother)

/-- Whatever is found from a place on comes one after another, no part within another. -/
theorem findings_apart (search : Search) (expressions : List Expression) (line : Line)
    (fuel first : Nat) :
    let findings := search.findings expressions line fuel first
    (∀ finding ∈ findings, first ≤ finding.1 ∧ search.Finds expressions line finding) ∧
      findings.Pairwise fun earlier later ↦ earlier.1 + earlier.2.length ≤ later.1 := by
  induction fuel generalizing first with
  | zero => exact ⟨nofun, .nil⟩
  | succ fuel ih =>
    unfold findings
    dsimp only
    split
    next hlt =>
      obtain ⟨hlength, hfinds⟩ := finds_of_lt hlt
      obtain ⟨hlater, hapart⟩ := ih ((search.endsAt expressions line first).foldl max first)
      refine ⟨List.forall_mem_cons.mpr ⟨⟨Nat.le_refl first, hfinds⟩, fun finding hfinding ↦ ?_⟩,
        List.pairwise_cons.mpr ⟨fun finding hfinding ↦ ?_, hapart⟩⟩
      · exact ⟨Nat.le_trans (Nat.le_of_lt hlt) (hlater finding hfinding).1,
          (hlater finding hfinding).2⟩
      · exact Nat.le_trans (Nat.le_of_eq hlength) (hlater finding hfinding).1
    next =>
      obtain ⟨hlater, hapart⟩ := ih (first + 1)
      exact ⟨fun finding hfinding ↦
        ⟨Nat.le_of_succ_le (hlater finding hfinding).1, (hlater finding hfinding).2⟩, hapart⟩

end Search

end ContainerLaunch.Rehearsal
