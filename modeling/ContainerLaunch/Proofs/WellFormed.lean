import ContainerLaunch.Proofs.Pieces
import Mathlib.Tactic.SplitIfs

/-!
# Well-formed sequences

Which bytes encode a character is said here without an encoder or a reader: they spell the number
of the character by the layout of UTF-8, and no shorter bytes do.  The encoder writes these bytes
and the reader tells them, their beginnings, and all other bytes apart.
-/

namespace ContainerLaunch.Utf8

variable {bytes bytes' sequence sequence' : Bytes} {b : UInt8} {c c' : Char} {n : Nat}

/-- The number that the bytes spell by the layout of UTF-8: the first byte tells how many they are
and holds the highest bits, each further one holds six.  It may be too great for a character, or a
surrogate, or have a shorter spelling. -/
def spelled? : Bytes → Option Nat
  | [a] => if a.toNat < 0x80 then some a.toNat else none
  | [a, b] =>
    if 0xC0 ≤ a.toNat ∧ a.toNat < 0xE0 ∧ isTail b.toNat then
      some ((a.toNat - 0xC0) * 0x40 + (b.toNat - 0x80))
    else none
  | [a, b, c] =>
    if 0xE0 ≤ a.toNat ∧ a.toNat < 0xF0 ∧ isTail b.toNat ∧ isTail c.toNat then
      some ((a.toNat - 0xE0) * 0x1000 + (b.toNat - 0x80) * 0x40 + (c.toNat - 0x80))
    else none
  | [a, b, c, d] =>
    if 0xF0 ≤ a.toNat ∧ a.toNat < 0xF8 ∧ isTail b.toNat ∧ isTail c.toNat ∧ isTail d.toNat then
      some ((a.toNat - 0xF0) * 0x40000 + (b.toNat - 0x80) * 0x1000 + (c.toNat - 0x80) * 0x40 +
        (d.toNat - 0x80))
    else none
  | _ => none

/-- The bytes are the well-formed sequence of a character.  A character is no surrogate and lies at
most at U+10FFFF; a sequence with a shorter one for the same number is not well-formed. -/
structure Encodes (bytes : Bytes) (c : Char) : Prop where
  spelled : spelled? bytes = some c.toNat
  shortest : ∀ other, spelled? other = some c.toNat → bytes.length ≤ other.length

/-! ## The encoder -/

theorem spelled?_encodeChar (c : Char) : spelled? (encodeChar c) = some c.toNat := by
  have hc := toNat_range c
  unfold encodeChar
  simp only
  split
  · simp only [spelled?, UInt8.toNat_ofNat']
    rw [if_pos (by omega)]
    exact congrArg some (by omega)
  split
  · simp only [spelled?, isTail, UInt8.toNat_ofNat', Bool.and_eq_true, decide_eq_true_eq]
    rw [if_pos (by omega)]
    exact congrArg some (by omega)
  split
  · simp only [spelled?, isTail, UInt8.toNat_ofNat', Bool.and_eq_true, decide_eq_true_eq]
    rw [if_pos (by omega)]
    exact congrArg some (by omega)
  · simp only [spelled?, isTail, UInt8.toNat_ofNat', Bool.and_eq_true, decide_eq_true_eq]
    rw [if_pos (by omega)]
    exact congrArg some (by omega)

theorem length_encodeChar (c : Char) :
    (encodeChar c).length =
      if c.toNat < 0x80 then 1 else if c.toNat < 0x800 then 2
      else if c.toNat < 0x10000 then 3 else 4 := by
  unfold encodeChar
  simp only
  split_ifs <;> rfl

/-- No bytes spell the number of a character in fewer places than the encoder. -/
theorem length_encodeChar_le (h : spelled? bytes = some c.toNat) :
    (encodeChar c).length ≤ bytes.length := by
  rw [length_encodeChar]
  match bytes with
  | [a] =>
    simp only [spelled?, Option.ite_none_right_eq_some, Option.some.injEq] at h
    rw [if_pos (by omega)]
    exact Nat.le_refl 1
  | [a, b] =>
    simp only [spelled?, isTail, Bool.and_eq_true, decide_eq_true_eq,
      Option.ite_none_right_eq_some, Option.some.injEq] at h
    simp only [List.length_cons, List.length_nil]
    split_ifs <;> omega
  | [a, b, c'] =>
    simp only [spelled?, isTail, Bool.and_eq_true, decide_eq_true_eq,
      Option.ite_none_right_eq_some, Option.some.injEq] at h
    simp only [List.length_cons, List.length_nil]
    split_ifs <;> omega
  | [a, b, c', d] =>
    simp only [List.length_cons, List.length_nil]
    split_ifs <;> omega
  | [] | _ :: _ :: _ :: _ :: _ :: _ => simp [spelled?] at h

/-- Bytes of one length that spell the same number are the same. -/
theorem eq_of_spelled?_eq (hlength : bytes.length = bytes'.length) (h : spelled? bytes = some n)
    (h' : spelled? bytes' = some n) : bytes = bytes' := by
  match bytes, bytes', hlength with
  | [a], [a'], _ =>
    simp only [spelled?, Option.ite_none_right_eq_some, Option.some.injEq] at h h'
    simp only [List.cons.injEq, ← UInt8.toNat_inj, and_true]
    omega
  | [a, b], [a', b'], _ =>
    simp only [spelled?, isTail, Bool.and_eq_true, decide_eq_true_eq,
      Option.ite_none_right_eq_some, Option.some.injEq] at h h'
    simp only [List.cons.injEq, ← UInt8.toNat_inj, and_true]
    omega
  | [a, b, c], [a', b', c'], _ =>
    simp only [spelled?, isTail, Bool.and_eq_true, decide_eq_true_eq,
      Option.ite_none_right_eq_some, Option.some.injEq] at h h'
    simp only [List.cons.injEq, ← UInt8.toNat_inj, and_true]
    omega
  | [a, b, c, d], [a', b', c', d'], _ =>
    simp only [spelled?, isTail, Bool.and_eq_true, decide_eq_true_eq,
      Option.ite_none_right_eq_some, Option.some.injEq] at h h'
    simp only [List.cons.injEq, ← UInt8.toNat_inj, and_true]
    omega
  | [], [], _ | _ :: _ :: _ :: _ :: _ :: _, _ :: _ :: _ :: _ :: _ :: _, _ => simp [spelled?] at h

theorem encodes_iff : Encodes bytes c ↔ bytes = encodeChar c := by
  constructor
  · intro h
    have hlength : bytes.length = (encodeChar c).length :=
      Nat.le_antisymm (h.shortest _ (spelled?_encodeChar c)) (length_encodeChar_le h.spelled)
    exact eq_of_spelled?_eq hlength h.spelled (spelled?_encodeChar c)
  · rintro rfl
    exact ⟨spelled?_encodeChar c, fun other hother ↦ length_encodeChar_le hother⟩

/-! ## Beginnings -/

/-- The bytes begin a well-formed sequence, or are one. -/
def Begins (bytes : Bytes) : Prop := ∃ sequence c, Encodes sequence c ∧ bytes <+: sequence

/-- One to three bytes that begin a well-formed sequence without being all of it. -/
def Opens (bytes : Bytes) : Prop :=
  1 ≤ bytes.length ∧ bytes.length ≤ 3 ∧
    ∃ sequence c, Encodes sequence c ∧ bytes <+: sequence ∧ bytes ≠ sequence

theorem Opens.begins (h : Opens bytes) : Begins bytes := by
  obtain ⟨-, -, sequence, c, hsequence, hbeginning, -⟩ := h
  exact ⟨sequence, c, hsequence, hbeginning⟩

theorem Begins.of_isPrefix (h : Begins bytes) (hbeginning : bytes' <+: bytes) : Begins bytes' := by
  obtain ⟨sequence, c, hsequence, hbytes⟩ := h
  exact ⟨sequence, c, hsequence, hbeginning.trans hbytes⟩

theorem length_le_of_classify (h : classify bytes ≠ .broken) : bytes.length ≤ 4 := by
  match bytes with
  | [] | [_] | [_, _] | [_, _, _] | [_, _, _, _] => simp
  | _ :: _ :: _ :: _ :: _ :: _ => simp [classify] at h

/-- Every first byte has a second one that its range allows. -/
theorem exists_isTailOf (a : UInt8) : ∃ b : UInt8, isTailOf a.toNat b.toNat = true := by
  by_cases hthree : a.toNat = 0xE0
  · exact ⟨0xA0, by rw [hthree]; decide⟩
  by_cases hfour : a.toNat = 0xF0
  · exact ⟨0x90, by rw [hfour]; decide⟩
  · exact ⟨0x80, by simp [isTailOf, isTail, hthree, hfour]⟩

/-- What the reader goes on with: a first byte, or two or three bytes of a longer sequence. -/
theorem opening_cases (h : classify bytes = .opening) :
    (∃ a, bytes = [a] ∧ 0xC2 ≤ a.toNat ∧ a.toNat ≤ 0xF4) ∨
    (∃ a b, bytes = [a, b] ∧ 0xE0 ≤ a.toNat ∧ a.toNat ≤ 0xF4 ∧ isTailOf a.toNat b.toNat) ∨
    ∃ a b c, bytes = [a, b, c] ∧ 0xF0 ≤ a.toNat ∧ a.toNat ≤ 0xF4 ∧ isTailOf a.toNat b.toNat ∧
      isTail c.toNat := by
  match bytes with
  | [a] =>
    simp only [classify, Bool.and_eq_true, decide_eq_true_eq] at h
    split at h
    · cases h
    split at h
    next hlead => exact .inl ⟨a, rfl, hlead⟩
    next => cases h
  | [a, b] =>
    simp only [classify, Bool.and_eq_true, decide_eq_true_eq] at h
    split at h
    next hlead =>
      split at h
      · cases h
      · exact .inr (.inl ⟨a, b, rfl, by omega, hlead.1.2, hlead.2⟩)
    next => cases h
  | [a, b, c] =>
    simp only [classify, Bool.and_eq_true, decide_eq_true_eq] at h
    split at h
    next hlead =>
      split at h
      · cases h
      · exact .inr (.inr ⟨a, b, c, rfl, by omega, hlead.1.1.2, hlead.1.2, hlead.2⟩)
    next => cases h
  | [_, _, _, _] =>
    simp only [classify] at h
    split at h <;> cases h
  | [] | _ :: _ :: _ :: _ :: _ :: _ => cases h

/-- The beginning of an encoding has a byte to go on with. -/
theorem exists_classify_append_ne_broken (h : classify bytes = .opening) :
    ∃ b, classify (bytes ++ [b]) ≠ .broken := by
  have htail : isTail (UInt8.toNat 0x80) = true := by decide
  rcases opening_cases h with ⟨a, rfl, hlead⟩ | ⟨a, b, rfl, hlead, hlast, hb⟩ |
    ⟨a, b, c, rfl, hlead, hlast, hb, hc⟩
  · obtain ⟨b, hb⟩ := exists_isTailOf a
    refine ⟨b, ?_⟩
    simp only [List.cons_append, List.nil_append, classify, hb, hlead, decide_true, Bool.and_self,
      if_true]
    split <;> exact Form.noConfusion
  · refine ⟨0x80, ?_⟩
    simp only [List.cons_append, List.nil_append, classify, hlead, hlast, hb, htail, decide_true,
      Bool.and_self, if_true]
    split <;> exact Form.noConfusion
  · refine ⟨0x80, ?_⟩
    simp only [List.cons_append, List.nil_append, classify, hlead, hlast, hb, hc, htail,
      decide_true, Bool.and_self, if_true]
    exact Form.noConfusion

/-- What the reader does not give up begins the encoding of some character. -/
theorem exists_prefix_encodeChar {bytes : Bytes} (h : classify bytes ≠ .broken) :
    ∃ c, bytes <+: encodeChar c := by
  cases hform : classify bytes with
  | whole c => exact ⟨c, (encodeChar_of_classify hform).symm ▸ List.prefix_refl bytes⟩
  | opening =>
    obtain ⟨b, hb⟩ := exists_classify_append_ne_broken hform
    have hlength : (bytes ++ [b]).length ≤ 4 := length_le_of_classify hb
    obtain ⟨c, hc⟩ := exists_prefix_encodeChar hb
    exact ⟨c, (List.prefix_append bytes [b]).trans hc⟩
  | broken => exact absurd hform h
termination_by 4 - bytes.length
decreasing_by
  rw [List.length_append, List.length_singleton] at hlength ⊢
  omega

/-- What stands before the end of an encoding, or of the beginning of one, is the beginning of
one. -/
theorem classify_eq_opening_of_append_ne_nil {more : Bytes} (hne : bytes ≠ []) (hmore : more ≠ [])
    (h : classify (bytes ++ more) ≠ .broken) : classify bytes = .opening := by
  induction more using List.reverseRecOn with
  | nil => exact absurd rfl hmore
  | append_singleton more b ih =>
    have hbefore : classify (bytes ++ more) = .opening := by
      rw [← List.append_assoc] at h
      exact classify_eq_opening_of_append (by simp [hne]) h
    by_cases hnothing : more = []
    · rwa [hnothing, List.append_nil] at hbefore
    · exact ih hnothing (by simp [hbefore])

theorem classify_eq_opening_of_isPrefix (hne : bytes ≠ []) (hbeginning : bytes <+: encodeChar c)
    (hproper : bytes ≠ encodeChar c) : classify bytes = .opening := by
  obtain ⟨more, hmore⟩ := hbeginning
  have hwhole : classify (bytes ++ more) ≠ .broken := by
    rw [hmore, classify_encodeChar]
    exact Form.noConfusion
  apply classify_eq_opening_of_append_ne_nil hne _ hwhole
  rintro rfl
  exact hproper (by rwa [List.append_nil] at hmore)

theorem classify_eq_opening_iff : classify bytes = .opening ↔ Opens bytes := by
  constructor
  · intro h
    have hnotBroken : classify bytes ≠ .broken := by simp [h]
    obtain ⟨c, hbeginning⟩ := exists_prefix_encodeChar hnotBroken
    have hproper : bytes ≠ encodeChar c := by
      rintro rfl
      rw [classify_encodeChar] at h
      cases h
    have hne : bytes ≠ [] := by
      rintro rfl
      cases h
    have hfour : (encodeChar c).length ≤ 4 :=
      length_le_of_classify (by rw [classify_encodeChar]; exact Form.noConfusion)
    have hshorter : bytes.length ≠ (encodeChar c).length := fun hlength ↦
      hproper (hbeginning.eq_of_length hlength)
    have hlength := hbeginning.length_le
    exact ⟨List.length_pos_iff.mpr hne, by omega, encodeChar c, c, encodes_iff.mpr rfl, hbeginning,
      hproper⟩
  · rintro ⟨hlength, -, sequence, c, hsequence, hbeginning, hproper⟩
    obtain rfl := encodes_iff.mp hsequence
    exact classify_eq_opening_of_isPrefix (List.length_pos_iff.mp hlength) hbeginning hproper

theorem classify_ne_broken_iff (hne : bytes ≠ []) : classify bytes ≠ .broken ↔ Begins bytes := by
  constructor
  · intro h
    obtain ⟨c, hbeginning⟩ := exists_prefix_encodeChar h
    exact ⟨encodeChar c, c, encodes_iff.mpr rfl, hbeginning⟩
  · rintro ⟨sequence, c, hsequence, hbeginning⟩
    obtain rfl := encodes_iff.mp hsequence
    by_cases hwhole : bytes = encodeChar c
    · rw [hwhole, classify_encodeChar]
      exact Form.noConfusion
    · rw [classify_eq_opening_of_isPrefix hne hbeginning hwhole]
      exact Form.noConfusion

/-- No well-formed sequence begins another one. -/
theorem Encodes.not_opens (h : Encodes bytes c) : ¬Opens bytes := by
  rw [← classify_eq_opening_iff, encodes_iff.mp h, classify_encodeChar]
  exact Form.noConfusion

end ContainerLaunch.Utf8
