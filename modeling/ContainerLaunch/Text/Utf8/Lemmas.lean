import ContainerLaunch.Text.Utf8

/-! # Encodings and their forms

`classify` agrees with `encodeChar` in both directions: it takes a run of bytes for a whole
character exactly when the bytes are the encoding of that character.
-/

namespace ContainerLaunch.Utf8

theorem toNat_range (c : Char) : c.toNat < 0xD800 ∨ (0xDFFF < c.toNat ∧ c.toNat < 0x110000) := by
  have h := c.valid
  simp only [UInt32.isValidChar, Nat.isValidChar] at h
  exact h

theorem toNat_ofNat {n : Nat} (h : n < 0xD800 ∨ (0xDFFF < n ∧ n < 0x110000)) :
    (Char.ofNat n).toNat = n := by
  have hvalid : n.isValidChar := h
  rw [Char.ofNat, dif_pos hvalid]
  rfl

theorem whole_ofNat {c : Char} {n : Nat} (h : n = c.toNat) :
    Form.whole (Char.ofNat n) = .whole c := by
  subst h
  exact congrArg _ (Char.ofNat_toNat c)

theorem byte_ofNat {b : UInt8} {n : Nat} (h : n = b.toNat) : UInt8.ofNat n = b := by
  subst h
  simp

theorem classify_encodeChar (c : Char) : classify (encodeChar c) = .whole c := by
  have hc := toNat_range c
  unfold encodeChar
  simp only
  split
  · simp only [classify, UInt8.toNat_ofNat']
    rw [if_pos (by omega)]
    exact whole_ofNat (by omega)
  split
  · simp only [classify, isTailOf, isTail, UInt8.toNat_ofNat', Bool.and_eq_true,
      decide_eq_true_eq, Bool.or_eq_true, bne_iff_ne]
    rw [if_pos (by omega), if_pos (by omega)]
    exact whole_ofNat (by omega)
  split
  · simp only [classify, isTailOf, isTail, UInt8.toNat_ofNat', Bool.and_eq_true,
      decide_eq_true_eq, Bool.or_eq_true, bne_iff_ne]
    rw [if_pos (by omega), if_pos (by omega)]
    exact whole_ofNat (by omega)
  · simp only [classify, isTailOf, isTail, UInt8.toNat_ofNat', Bool.and_eq_true,
      decide_eq_true_eq, Bool.or_eq_true, bne_iff_ne]
    rw [if_pos (by omega)]
    exact whole_ofNat (by omega)

theorem encodeChar_of_classify {bytes : Bytes} {c : Char} (h : classify bytes = .whole c) :
    encodeChar c = bytes := by
  unfold classify at h
  split at h
  · rename_i a
    have ha := a.toNat_lt
    simp only at h
    split at h
    · rename_i hlow
      obtain rfl := Form.whole.inj h
      unfold encodeChar
      simp only [toNat_ofNat (Or.inl (show a.toNat < 0xD800 by omega))]
      rw [if_pos hlow, byte_ofNat rfl]
    · split at h <;> simp at h
  · rename_i a b
    have ha := a.toNat_lt
    have hb := b.toNat_lt
    simp only [isTailOf, isTail, Bool.and_eq_true, decide_eq_true_eq, Bool.or_eq_true,
      bne_iff_ne] at h
    split at h
    · split at h
      · obtain rfl := Form.whole.inj h
        unfold encodeChar
        simp only [toNat_ofNat
          (show (a.toNat - 0xC0) * 0x40 + (b.toNat - 0x80) < 0xD800 ∨ _ by omega)]
        rw [if_neg (by omega), if_pos (by omega), byte_ofNat (b := a) (by omega),
          byte_ofNat (b := b) (by omega)]
      · simp at h
    · simp at h
  · rename_i a b c
    have ha := a.toNat_lt
    have hb := b.toNat_lt
    have hc := c.toNat_lt
    simp only [isTailOf, isTail, Bool.and_eq_true, decide_eq_true_eq, Bool.or_eq_true,
      bne_iff_ne] at h
    split at h
    · split at h
      · obtain rfl := Form.whole.inj h
        unfold encodeChar
        simp only [toNat_ofNat (show (a.toNat - 0xE0) * 0x1000 + (b.toNat - 0x80) * 0x40 +
          (c.toNat - 0x80) < 0xD800 ∨ _ by omega)]
        rw [if_neg (by omega), if_neg (by omega), if_pos (by omega),
          byte_ofNat (b := a) (by omega), byte_ofNat (b := b) (by omega),
          byte_ofNat (b := c) (by omega)]
      · simp at h
    · simp at h
  · rename_i a b c d
    have ha := a.toNat_lt
    have hb := b.toNat_lt
    have hc := c.toNat_lt
    have hd := d.toNat_lt
    simp only [isTailOf, isTail, Bool.and_eq_true, decide_eq_true_eq, Bool.or_eq_true,
      bne_iff_ne] at h
    split at h
    · obtain rfl := Form.whole.inj h
      unfold encodeChar
      simp only [toNat_ofNat (show (a.toNat - 0xF0) * 0x40000 + (b.toNat - 0x80) * 0x1000 +
        (c.toNat - 0x80) * 0x40 + (d.toNat - 0x80) < 0xD800 ∨ _ by omega)]
      rw [if_neg (by omega), if_neg (by omega), if_neg (by omega),
        byte_ofNat (b := a) (by omega), byte_ofNat (b := b) (by omega),
        byte_ofNat (b := c) (by omega), byte_ofNat (b := d) (by omega)]
    · simp at h
  · simp at h

end ContainerLaunch.Utf8
