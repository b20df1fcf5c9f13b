import ContainerLaunch.Transcript
import Mathlib.Data.List.Basic

/-!
# Standard streams of a transcript

What appears on the standard streams depends on the deeds alone, but for the journal's entries.
These stand whole, and in the order in which they were made, among all else that comes to standard
error, and what is left without them is the same for every journal.
-/

namespace ContainerLaunch.Effects

/-! ## What can be told from the deeds -/

/-- Whatever notes have no part in can be told from the deeds. -/
theorem flatMap_deeds {α : Type} {view : Effect → List α}
    (h : ∀ record, view (.noted record) = []) (effects : Effects) :
    effects.deeds.flatMap view = effects.flatMap view := by
  induction effects with
  | nil => rfl
  | cons effect effects ih =>
    cases effect with
    | noted record =>
      rw [List.flatMap_cons, h record]
      exact ih
    | printed | flushed | attempted | relayed | complained =>
      exact congrArg (view _ ++ ·) ih

theorem stdout_deeds (effects : Effects) : effects.deeds.stdout = effects.stdout :=
  flatMap_deeds (fun _ ↦ rfl) effects

section Complained

variable (effects : Effects) (text : Text)

@[simp]
theorem attempts_complained : attempts (effects ++ [.complained text]) = effects.attempts := by
  simp [attempts, Effect.attempt?]

end Complained

/-! ## Entries of the journal -/

/-- What the journal says of the records, one entry for each of them. -/
def entries (journal : Option Journal) (effects : Effects) : List Bytes :=
  effects.records.flatMap fun record ↦
    journal.toList.map fun current ↦ Utf8.encode (current.entry record)

/-- The entries stand in the bytes one after another, each of them whole; when they are left out,
what is left is the rest. -/
inductive Woven : (entries : List Bytes) → (rest bytes : Bytes) → Prop where
  | nil : Woven [] [] []
  | entry (entry : Bytes) {entries : List Bytes} {rest bytes : Bytes}
      (h : Woven entries rest bytes) : Woven (entry :: entries) rest (entry ++ bytes)
  | other (part : Bytes) {entries : List Bytes} {rest bytes : Bytes}
      (h : Woven entries rest bytes) : Woven entries (part ++ rest) (part ++ bytes)

theorem woven_stderr (journal : Option Journal) (effects : Effects) :
    Woven (effects.entries journal) effects.unlogged (effects.stderr journal) := by
  induction effects with
  | nil => exact .nil
  | cons effect effects ih =>
    cases effect with
    | noted record =>
      cases journal with
      | none => exact ih
      | some current =>
        have hbytes : Effects.stderr (some current) (.noted record :: effects) =
            Utf8.encode (current.entry record) ++ Effects.stderr (some current) effects :=
          congrArg (· ++ _) (List.append_nil _)
        rw [hbytes]
        exact .entry (Utf8.encode (current.entry record)) ih
    | printed | flushed | attempted => exact ih
    | relayed child => exact .other child.stderr ih
    | complained text => exact .other (Utf8.encode text) ih

theorem entries_none (effects : Effects) : effects.entries none = [] :=
  List.flatMap_eq_nil_iff.mpr fun _ _ ↦ rfl

theorem entries_some (journal : Journal) (effects : Effects) :
    effects.entries (some journal) =
      effects.records.map fun record ↦ Utf8.encode (journal.entry record) :=
  List.map_eq_flatMap.symm

theorem stderr_none (effects : Effects) : effects.stderr none = effects.unlogged :=
  List.flatMap_congr fun effect _ ↦ by cases effect <;> rfl

end ContainerLaunch.Effects
