import ContainerLaunch.Text.Blank
import Mathlib.Data.List.DropRight

/-!
# White space at the ends of a text

Trimming a text takes white space from its ends and nothing else.  So white space that is put
before or after a text is not seen in the trimmed text, also when the text is white space itself or
begins or ends with it.
-/

namespace ContainerLaunch.Text

variable {text before after word : Text} {c : Char}

/-- The characters with the Unicode property White_Space, one by one. -/
def whiteSpace : Text :=
  ['\t', '\n', '\x0b', '\x0c', '\r', ' ', '\u0085', '\u00a0', '\u1680', '\u2000', '\u2001',
    '\u2002', '\u2003', '\u2004', '\u2005', '\u2006', '\u2007', '\u2008', '\u2009', '\u200a',
    '\u2028', '\u2029', '\u202f', '\u205f', '\u3000']

/-- The text is made of white space only. -/
def Blank (text : Text) : Prop := ∀ c ∈ text, c ∈ whiteSpace

/-- The runs of white space hold the characters with the property and no others. -/
theorem isBlank_iff : isBlank c = true ↔ c ∈ whiteSpace := by
  constructor
  · intro h
    simp only [isBlank, blankRanges, List.any_cons, List.any_nil, Bool.or_eq_true,
      Bool.and_eq_true, Bool.false_eq_true, decide_eq_true_eq, or_false] at h
    simp only [whiteSpace, List.mem_cons, List.not_mem_nil, ← Char.toNat_inj, Char.reduceToNat,
      or_false]
    omega
  · have hall : whiteSpace.all Text.isBlank = true := by decide
    exact List.all_eq_true.mp hall c

theorem Blank.isBlank (h : Blank text) : ∀ c ∈ text, isBlank c = true := fun c hc ↦
  isBlank_iff.mpr (h c hc)

theorem blank_of_isBlank (h : ∀ c ∈ text, isBlank c = true) : Blank text := fun c hc ↦
  isBlank_iff.mp (h c hc)

/-! ## One end -/

theorem trimStart_append_left (h : Blank before) (text : Text) :
    trimStart (before ++ text) = trimStart text :=
  List.dropWhile_append_of_pos h.isBlank

theorem trimEnd_append_right (h : Blank after) (text : Text) :
    trimEnd (text ++ after) = trimEnd text := by
  have hreverse : ∀ c ∈ after.reverse, Text.isBlank c = true := fun c hc ↦
    h.isBlank c (List.mem_reverse.mp hc)
  unfold trimEnd
  rw [List.reverse_append, List.dropWhile_append_of_pos hreverse]

theorem exists_eq_append_trimStart (text : Text) :
    ∃ before, Blank before ∧ text = before ++ trimStart text := by
  refine ⟨text.takeWhile Text.isBlank, ?_, List.takeWhile_append_dropWhile.symm⟩
  exact blank_of_isBlank fun c hc ↦ List.mem_takeWhile_imp hc

theorem exists_eq_trimEnd_append (text : Text) :
    ∃ after, Blank after ∧ text = trimEnd text ++ after := by
  refine ⟨text.rtakeWhile Text.isBlank, ?_, (List.rdropWhile_append_rtakeWhile ..).symm⟩
  exact blank_of_isBlank fun c hc ↦ List.mem_rtakeWhile_imp hc

/-! ## Both ends -/

/-- What is trimmed off is white space. -/
theorem exists_eq_append_trim_append (text : Text) :
    ∃ before after, Blank before ∧ Blank after ∧ text = before ++ trim text ++ after := by
  obtain ⟨before, hbefore, hstart⟩ := exists_eq_append_trimStart text
  obtain ⟨after, hafter, hend⟩ := exists_eq_trimEnd_append (trimStart text)
  refine ⟨before, after, hbefore, hafter, ?_⟩
  calc
    text = before ++ trimStart text := hstart
    _ = before ++ (trim text ++ after) := congrArg (before ++ ·) hend
    _ = before ++ trim text ++ after := (List.append_assoc ..).symm

/-- White space around a text does not count. -/
theorem trim_append_append (hbefore : Blank before) (hafter : Blank after) (text : Text) :
    trim (before ++ text ++ after) = trim text := by
  have hstart : trimStart (before ++ text ++ after) = trimStart (text ++ after) := by
    rw [List.append_assoc, trimStart_append_left hbefore]
  have hrest : trimStart after = [] := List.dropWhile_eq_nil_iff.mpr hafter.isBlank
  unfold trim
  rw [hstart]
  -- nothing is left of a text that is white space itself, and then nothing of what follows it
  by_cases hnothing : trimStart text = []
  · have hall : trimStart (text ++ after) = trimStart after := by
      unfold trimStart at hnothing ⊢
      rw [List.dropWhile_append, hnothing]
      rfl
    rw [hall, hrest, hnothing]
  · have hkept : trimStart (text ++ after) = trimStart text ++ after := by
      unfold trimStart at hnothing ⊢
      rw [List.dropWhile_append, if_neg (by rwa [List.isEmpty_iff])]
    rw [hkept, trimEnd_append_right hafter]

/-- There is nothing to trim in a text without white space. -/
theorem trim_eq_self (h : ∀ c ∈ word, isBlank c = false) : trim word = word := by
  have hstays {part : Text} (hpart : ∀ c ∈ part, isBlank c = false) :
      part.dropWhile Text.isBlank = part := by
    cases part with
    | nil => rfl
    | cons c part => exact List.dropWhile_cons_of_neg (by simp [hpart c List.mem_cons_self])
  have hreverse : ∀ c ∈ word.reverse, isBlank c = false := fun c hc ↦
    h c (List.mem_reverse.mp hc)
  unfold trim trimStart trimEnd
  rw [hstays h, hstays hreverse, List.reverse_reverse]

/-- What changes no character into white space or out of it can be done before trimming or
after. -/
theorem trim_map {f : Char → Char} (h : ∀ c, isBlank (f c) = isBlank c) (text : Text) :
    trim (text.map f) = (trim text).map f := by
  have hsame : Text.isBlank ∘ f = Text.isBlank := funext h
  unfold trim trimStart trimEnd
  rw [List.dropWhile_map, ← List.map_reverse, List.dropWhile_map, ← List.map_reverse, hsame]

end ContainerLaunch.Text
