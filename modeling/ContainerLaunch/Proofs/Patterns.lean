import ContainerLaunch.Rehearsal.Shell.Fields
import Mathlib.Data.List.Basic

/-!
# What patterns describe

A pattern describes byte strings atom by atom: an atom describes one byte, and a star any bytes.
The matcher tells just this, however many stars it has to try.  Quotes take all meaning from what
stands in them, so a field that is quoted throughout is a pattern of its own bytes alone.
-/

namespace ContainerLaunch.Rehearsal.Shell

namespace Pattern

variable {atom : Atom} {atoms : List Atom} {b : UInt8} {bytes rest : Bytes}

/-- The bytes fall into pieces that the atoms stand for, one after another. -/
inductive Describes : List Atom → Bytes → Prop where
  | nil : Describes [] []
  | byte {atom : Atom} {b : UInt8} {atoms : List Atom} {rest : Bytes} (hb : atom.holds b = true)
      (h : Describes atoms rest) : Describes (atom :: atoms) (b :: rest)
  | star (run : Bytes) {atoms : List Atom} {rest : Bytes} (h : Describes atoms rest) :
      Describes (.star :: atoms) (run ++ rest)

/-- A star that has taken a byte may take more. -/
theorem Describes.star_cons (b : UInt8) (h : Describes (.star :: atoms) bytes) :
    Describes (.star :: atoms) (b :: bytes) := by
  cases h with
  | byte _ h => exact .star [b, _] h
  | star run h => exact .star (b :: run) h

theorem atomsMatch_star_of_atomsMatch (h : atomsMatch atoms bytes = true) :
    atomsMatch (.star :: atoms) bytes = true := by
  cases bytes with
  | nil => rw [atomsMatch, h, Bool.true_or]
  | cons b rest => rw [atomsMatch, h, Bool.true_or]

theorem atomsMatch_star_cons (h : atomsMatch (.star :: atoms) bytes = true) :
    atomsMatch (.star :: atoms) (b :: bytes) = true := by
  rw [atomsMatch, h, Bool.or_true]

theorem atomsMatch_cons_of_holds (hb : atom.holds b = true) (h : atomsMatch atoms rest = true) :
    atomsMatch (atom :: atoms) (b :: rest) = true := by
  cases atom with
  | star => exact atomsMatch_star_cons (atomsMatch_star_of_atomsMatch h)
  | byte | any | oneOf =>
    rw [atomsMatch, hb, h, Bool.and_true]
    intro heq
    cases heq

theorem describes_of_atomsMatch (h : atomsMatch atoms bytes = true) : Describes atoms bytes := by
  fun_induction atomsMatch atoms bytes with
  | case1 bytes =>
    rw [List.isEmpty_iff.mp h]
    exact .nil
  | case2 atoms bytes hnone hmore =>
    cases bytes with
    | nil => exact .star [] (hnone (by simpa using h))
    | cons b rest =>
      rcases Bool.or_eq_true_iff.mp h with h | h
      · exact .star [] (hnone h)
      · exact (hmore h).star_cons b
  | case3 => cases h
  | case4 _ _ _ b rest ih =>
    rw [Bool.and_eq_true] at h
    exact .byte h.1 (ih h.2)

theorem atomsMatch_of_describes (h : Describes atoms bytes) : atomsMatch atoms bytes = true := by
  induction h with
  | nil => rw [atomsMatch, List.isEmpty_nil]
  | byte hb _ ih => exact atomsMatch_cons_of_holds hb ih
  | star run _ ih =>
    induction run with
    | nil => exact atomsMatch_star_of_atomsMatch ih
    | cons b run ih => exact atomsMatch_star_cons ih

theorem atomsMatch_eq_true_iff : atomsMatch atoms bytes = true ↔ Describes atoms bytes :=
  ⟨describes_of_atomsMatch, atomsMatch_of_describes⟩

/-! ## Quoted fields -/

theorem describes_map_byte_iff {literal : Bytes} :
    Describes (literal.map .byte) bytes ↔ bytes = literal := by
  constructor
  · intro h
    induction literal generalizing bytes with
    | nil =>
      cases h
      rfl
    | cons b literal ih =>
      cases h with
      | byte hb h => rw [ih h, of_decide_eq_true hb]
  · rintro rfl
    induction bytes with
    | nil => exact .nil
    | cons b rest ih => exact .byte (decide_eq_true rfl) ih

/-- A backslash before every byte makes a byte of each, whatever it stands for otherwise. -/
theorem atoms_flatMap_backslash {fuel : Nat} {literal : Bytes} (h : literal.length ≤ fuel) :
    Pattern.atoms fuel (literal.flatMap fun b ↦ [Ascii.backslash, b]) = literal.map .byte := by
  induction literal generalizing fuel with
  | nil => cases fuel <;> rfl
  | cons b literal ih =>
    cases fuel with
    | zero => cases h
    | succ fuel => exact congrArg (Atom.byte b :: ·) (ih (Nat.le_of_succ_le_succ h))

end Pattern

namespace Field

variable {field : Field}

theorem pattern_of_quoted (h : ∀ b, Mark.byte b false ∉ field) :
    field.pattern = field.bytes.flatMap fun b ↦ [Ascii.backslash, b] := by
  induction field with
  | nil => rfl
  | cons mark field ih =>
    have hfield := ih fun b hb ↦ h b (List.mem_cons_of_mem mark hb)
    cases mark with
    | boundary | quotes => exact hfield
    | byte b quoted =>
      cases quoted with
      | false => exact absurd List.mem_cons_self (h b)
      | true => exact congrArg ([Ascii.backslash, b] ++ ·) hfield

/-- Quoted throughout, a field matches its own bytes and no others. -/
theorem matchesPattern_of_quoted (h : ∀ b, Mark.byte b false ∉ field) (bytes : Bytes) :
    matchesPattern field.pattern bytes = true ↔ bytes = field.bytes := by
  have hlength : field.bytes.length ≤
      (field.bytes.flatMap fun b ↦ [Ascii.backslash, b]).length := by
    have hdouble : (field.bytes.flatMap fun b ↦ [Ascii.backslash, b]).length =
        field.bytes.length * 2 := by simp
    omega
  rw [matchesPattern, pattern_of_quoted h, Pattern.atoms_flatMap_backslash hlength,
    Pattern.atomsMatch_eq_true_iff, Pattern.describes_map_byte_iff]

end Field

end ContainerLaunch.Rehearsal.Shell
