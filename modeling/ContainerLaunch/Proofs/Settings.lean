import ContainerLaunch.Proofs.AsciiBytes
import ContainerLaunch.Proofs.Blanks
import ContainerLaunch.Settings
import Mathlib.Data.List.Forall2

/-!
# Settings from the environment

The value of the environment variable is read up to white space at its ends and up to the case of
its ASCII letters.  Changing the case of a letter changes no other character the bytes are read as,
since an ASCII byte is a character of its own; and no letter is white space in either case, so it
makes no difference to what is trimmed.
-/

namespace ContainerLaunch

/-! ## Letter case -/

namespace Text

theorem toNat_toLower (c : Char) :
    c.toLower.toNat =
      if 0x41 ≤ c.toNat ∧ c.toNat ≤ 0x5A then c.toNat + 0x20 else c.toNat := by
  have hupper : c.val ≥ 'A'.val ∧ c.val ≤ 'Z'.val ↔ 0x41 ≤ c.toNat ∧ c.toNat ≤ 0x5A := by
    rw [ge_iff_le, UInt32.le_iff_toNat_le, UInt32.le_iff_toNat_le]
    rfl
  unfold Char.toLower
  split
  next h =>
    have hsmall : c.val.toNat + 0x20 < 2 ^ 32 := by
      have hlast : c.val.toNat ≤ 0x5A := (hupper.mp h).2
      omega
    have hsum : (c.val + ('a'.val - 'A'.val)).toNat = (c.val.toNat + 0x20) % 2 ^ 32 :=
      UInt32.toNat_add _ _
    rw [if_pos (hupper.mp h)]
    exact hsum.trans (Nat.mod_eq_of_lt hsmall)
  next h => rw [if_neg (mt hupper.mpr h)]

theorem toLower_toLower (c : Char) : c.toLower.toLower = c.toLower := by
  rw [← Char.toNat_inj, toNat_toLower, toNat_toLower]
  split_ifs <;> omega

/-- White space is no letter, and no letter is white space. -/
theorem isBlank_toLower (c : Char) : isBlank c.toLower = isBlank c := by
  have hbeyond : (whiteSpace.all fun c ↦ c.toNat < 0x41 || 0x7A < c.toNat) = true := by decide
  have hletter {c : Char} (h : 0x41 ≤ c.toNat ∧ c.toNat ≤ 0x7A) : isBlank c = false := by
    rw [← Bool.not_eq_true, isBlank_iff]
    intro hblank
    have hother := List.all_eq_true.mp hbeyond c hblank
    rw [Bool.or_eq_true, decide_eq_true_eq, decide_eq_true_eq] at hother
    omega
  have hlower := toNat_toLower c
  by_cases hupper : 0x41 ≤ c.toNat ∧ c.toNat ≤ 0x5A
  · rw [if_pos hupper] at hlower
    rw [hletter (by omega), hletter (by omega)]
  · rw [if_neg hupper] at hlower
    rw [Char.toNat_inj.mp hlower]

end Text

/-- Some ASCII letters of the bytes put in upper case, and some in lower case. -/
def Ascii.Recased : Bytes → Bytes → Prop :=
  List.Forall₂ fun b b' ↦ b' = b ∨ b' = Ascii.toUpper b ∨ b' = Ascii.toLower b

namespace Utf8

open Ascii

variable {bytes bytes' : Bytes} {b b' : UInt8}

/-- The piece without the case of its letter. -/
def Piece.lowered : Piece → Piece
  | char c => char c.toLower
  | stray bytes => stray bytes

theorem isChar_lowered (piece : Piece) : piece.lowered.isChar = piece.isChar := by
  cases piece <;> rfl

theorem shown_lowered (piece : Piece) : piece.lowered.shown = piece.shown.toLower := by
  cases piece with
  | char c => rfl
  | stray bytes =>
    have hreplacement : '\ufffd'.toLower = '\ufffd' := by decide
    exact hreplacement.symm

/-- A byte beyond ASCII has no case. -/
theorem eq_of_recased (h : b' = b ∨ b' = toUpper b ∨ b' = toLower b) (hb : ¬b.toNat < 0x80) :
    b' = b := by
  have hbeyond (last : UInt8) (hlast : last.toNat < 0x80) : (b ≤ last) = False := by
    rw [UInt8.le_iff_toNat_le, eq_iff_iff, iff_false]
    omega
  have hupper : isUpper b = false := by
    simp [isUpper, hbeyond 0x5A (by decide)]
  have hlower : isLower b = false := by
    simp [isLower, hbeyond 0x7A (by decide)]
  rcases h with rfl | rfl | rfl
  · rfl
  · rw [toUpper, hlower]
    rfl
  · rw [toLower, hupper]
    rfl

/-- An ASCII byte stays one, and the same letter. -/
theorem toLower_ofNat_of_recased (h : b' = b ∨ b' = toUpper b ∨ b' = toLower b)
    (hb : b.toNat < 0x80) :
    b'.toNat < 0x80 ∧ (Char.ofNat b'.toNat).toLower = (Char.ofNat b.toNat).toLower := by
  have hupper : ∀ n : Fin 0x80, (toUpper (.ofNat n)).toNat < 0x80 ∧
      (Char.ofNat (toUpper (.ofNat n)).toNat).toLower = (Char.ofNat n).toLower := by decide
  have hlower : ∀ n : Fin 0x80, (toLower (.ofNat n)).toNat < 0x80 ∧
      (Char.ofNat (toLower (.ofNat n)).toNat).toLower = (Char.ofNat n).toLower := by decide
  have hbyte : UInt8.ofNat b.toNat = b := UInt8.ofNat_toNat
  rcases h with rfl | rfl | rfl
  · exact ⟨hb, rfl⟩
  · simpa only [hbyte] using hupper ⟨b.toNat, hb⟩
  · simpa only [hbyte] using hlower ⟨b.toNat, hb⟩

/-- Bytes that differ in case only are read as pieces that differ in case only. -/
theorem lowered_pieces_of_recased (h : Recased bytes bytes') (front : Bytes) :
    (pieces (front ++ bytes')).map Piece.lowered = (pieces (front ++ bytes)).map Piece.lowered := by
  induction h generalizing front with
  | nil => rfl
  | @cons b b' bytes bytes' hb _ ih =>
    by_cases hascii : b.toNat < 0x80
    · obtain ⟨hascii', hsame⟩ := toLower_ofNat_of_recased hb hascii
      have hrest := ih []
      rw [pieces_append_cons_of_ascii _ _ hascii, pieces_append_cons_of_ascii _ _ hascii',
        List.map_append, List.map_append, List.map_cons, List.map_cons, Piece.lowered,
        Piece.lowered, hsame]
      rw [List.nil_append, List.nil_append] at hrest
      rw [hrest]
    · obtain rfl := eq_of_recased hb hascii
      have hrest := ih (front ++ [b'])
      simpa only [List.append_assoc, List.singleton_append] using hrest

theorem isValid_of_recased (h : Recased bytes bytes') : isValid bytes' = isValid bytes := by
  have hlowered (bytes : Bytes) :
      isValid bytes = ((pieces bytes).map Piece.lowered).all Piece.isChar := by
    rw [List.all_map, isValid]
    exact congrArg (pieces bytes).all (funext isChar_lowered).symm
  rw [hlowered bytes, hlowered bytes']
  exact congrArg (·.all Piece.isChar) (lowered_pieces_of_recased h [])

theorem map_toLower_decodeLossy_of_recased (h : Recased bytes bytes') :
    (decodeLossy bytes').map Char.toLower = (decodeLossy bytes).map Char.toLower := by
  have hlowered (bytes : Bytes) :
      (decodeLossy bytes).map Char.toLower =
        ((pieces bytes).map Piece.lowered).map Piece.shown := by
    rw [decodeLossy, List.map_map, List.map_map]
    exact List.map_congr_left fun piece _ ↦ (shown_lowered piece).symm
  rw [hlowered bytes, hlowered bytes']
  exact congrArg (List.map Piece.shown) (lowered_pieces_of_recased h [])

end Utf8

/-! ## The switch -/

namespace Settings

variable {text word : Text}

/-- The word leaves debugging off: no word at all, a zero, or `false` in any case. -/
def SaysOff (word : Text) : Prop :=
  word = [] ∨ word = ['0'] ∨ word.map Char.toLower = "false".toList

theorem saysOff_map_toLower : SaysOff (word.map Char.toLower) ↔ SaysOff word := by
  have hzero : word.map Char.toLower = ['0'] ↔ word = ['0'] := by
    have hdigit (c : Char) : c.toLower = '0' ↔ c = '0' := by
      rw [← Char.toNat_inj, ← Char.toNat_inj, Text.toNat_toLower]
      simp only [Char.reduceToNat]
      split_ifs <;> omega
    simp [List.map_eq_cons_iff, hdigit]
  have htwice : (word.map Char.toLower).map Char.toLower = word.map Char.toLower := by
    rw [List.map_map]
    exact List.map_congr_left fun c _ ↦ Text.toLower_toLower c
  unfold SaysOff
  rw [List.map_eq_nil_iff, hzero, htwice]

/-- No word that leaves debugging off has white space in it. -/
theorem SaysOff.isBlank_eq_false (h : SaysOff word) : ∀ c ∈ word, Text.isBlank c = false := by
  rcases h with rfl | rfl | hfalse
  · simp
  · have hzero : Text.isBlank '0' = false := by decide
    exact List.forall_mem_singleton.mpr hzero
  · intro c hc
    have hletters : ("false".toList.all fun c ↦ !Text.isBlank c) = true := by decide
    have hmem : c.toLower ∈ "false".toList := hfalse ▸ List.mem_map_of_mem hc
    have hletter := List.all_eq_true.mp hletters _ hmem
    rw [Text.isBlank_toLower] at hletter
    simpa using hletter

theorem switchesOn_eq_false_iff : switchesOn text = false ↔ SaysOff (Text.trim text) := by
  simp only [switchesOn, SaysOff, Bool.not_eq_false', Bool.or_eq_true, List.isEmpty_iff,
    beq_iff_eq, or_assoc]

theorem switchesOn_congr {text' : Text}
    (h : SaysOff (Text.trim text) ↔ SaysOff (Text.trim text')) :
    switchesOn text = switchesOn text' := by
  rw [← switchesOn_eq_false_iff, ← switchesOn_eq_false_iff] at h
  rw [Bool.eq_iff_iff, ← Bool.not_eq_false, ← Bool.not_eq_false, h]

theorem switchesOn_append_append {before after : Text} (hbefore : Text.Blank before)
    (hafter : Text.Blank after) (text : Text) :
    switchesOn (before ++ text ++ after) = switchesOn text := by
  apply switchesOn_congr
  rw [Text.trim_append_append hbefore hafter]

theorem switchesOn_map_toLower (text : Text) :
    switchesOn (text.map Char.toLower) = switchesOn text := by
  apply switchesOn_congr
  rw [Text.trim_map Text.isBlank_toLower, saysOff_map_toLower]

/-- Debugging stays off for the words that say so, with any white space around them. -/
theorem switchesOn_eq_false_iff_exists :
    switchesOn text = false ↔ ∃ before word after, Text.Blank before ∧ Text.Blank after ∧
      SaysOff word ∧ text = before ++ word ++ after := by
  rw [switchesOn_eq_false_iff]
  constructor
  · intro h
    obtain ⟨before, after, hbefore, hafter, htext⟩ := Text.exists_eq_append_trim_append text
    exact ⟨before, Text.trim text, after, hbefore, hafter, h, htext⟩
  · rintro ⟨before, word, after, hbefore, hafter, hword, rfl⟩
    rw [Text.trim_append_append hbefore hafter, Text.trim_eq_self hword.isBlank_eq_false]
    exact hword

/-! ## The settings -/

theorem ofEnvironment_encode (text : Text) :
    ofEnvironment (some (Utf8.encode text)) = { debug := switchesOn text } := by
  rw [ofEnvironment, Option.bind_some, Utf8.decode?_encode, Option.any_some]

theorem ofEnvironment_of_not_text {value : Bytes} (h : ¬∃ text, Utf8.encode text = value) :
    ofEnvironment (some value) = {} := by
  rw [← Utf8.isValid_iff_exists_encode] at h
  rw [ofEnvironment, Option.bind_some, Utf8.decode?, if_neg h, Option.any_none]

theorem ofEnvironment_recased {value value' : Bytes} (h : Ascii.Recased value value') :
    ofEnvironment (some value') = ofEnvironment (some value) := by
  have hswitch : switchesOn (Utf8.decodeLossy value') = switchesOn (Utf8.decodeLossy value) := by
    rw [← switchesOn_map_toLower, Utf8.map_toLower_decodeLossy_of_recased h,
      switchesOn_map_toLower]
  simp only [ofEnvironment, Option.bind_some, Utf8.decode?, Utf8.isValid_of_recased h]
  split
  · rw [Option.any_some, Option.any_some, hswitch]
  · rfl

theorem ofEnvironment_eq_default_iff {environment : Option Bytes} :
    ofEnvironment environment = {} ↔ (ofEnvironment environment).debug = false := by
  rw [Settings.ext_iff]
  exact ⟨And.left, fun h ↦ ⟨h, rfl, rfl⟩⟩

/-- The one setting that is open to the user is read from a value up to white space around it and
the case of its letters.  Bytes that are no text leave all settings as they are without a value; a
text leaves debugging off when it says so, and nothing that is read changes any other setting. -/
theorem ofEnvironment_reads_switch (value : Bytes) :
    ((¬∃ text, Utf8.encode text = value) → ofEnvironment (some value) = {}) ∧
      ((∃ text, Utf8.encode text = value) →
        (∀ before after, Text.Blank before → Text.Blank after →
          ofEnvironment (some (Utf8.encode before ++ value ++ Utf8.encode after)) =
            ofEnvironment (some value)) ∧
        ((ofEnvironment (some value)).debug = false ↔
          ∃ before word after, Text.Blank before ∧ Text.Blank after ∧ SaysOff word ∧
            value = Utf8.encode (before ++ word ++ after))) ∧
      (∀ value', Ascii.Recased value value' →
        ofEnvironment (some value') = ofEnvironment (some value)) ∧
      ∀ environment,
        (ofEnvironment environment).python = ({} : Settings).python ∧
        (ofEnvironment environment).launcher = ({} : Settings).launcher ∧
        (ofEnvironment environment = {} ↔ (ofEnvironment environment).debug = false) := by
  refine ⟨ofEnvironment_of_not_text, ?_, fun value' ↦ ofEnvironment_recased, fun environment ↦ ?_⟩
  · rintro ⟨text, rfl⟩
    refine ⟨fun before after hbefore hafter ↦ ?_, ?_⟩
    · have hencode : Utf8.encode before ++ Utf8.encode text ++ Utf8.encode after =
          Utf8.encode (before ++ text ++ after) := by
        simp only [Utf8.encode, List.flatMap_append]
      rw [hencode, ofEnvironment_encode, ofEnvironment_encode,
        switchesOn_append_append hbefore hafter]
    · simp only [ofEnvironment_encode, switchesOn_eq_false_iff_exists,
        Utf8.encode_injective.eq_iff]
  · exact ⟨rfl, rfl, ofEnvironment_eq_default_iff⟩

/-- A word in letters of both cases, with white space of several bytes before it. -/
theorem ofEnvironment_reads_switch_of_padded_word :
    let value := Utf8.ofString "FaLSe"
    (∃ text, Utf8.encode text = value) ∧ Text.Blank ['\u3000'] ∧ Text.Blank ['\n'] ∧
      Ascii.Recased value (Utf8.ofString "False") ∧
      ofEnvironment (some (Utf8.encode ['\u3000'] ++ value ++ Utf8.encode ['\n'])) =
        ofEnvironment (some value) ∧
      ofEnvironment (some (Utf8.ofString "False")) = ofEnvironment (some value) := by
  intro value
  have htext : ∃ text, Utf8.encode text = value := ⟨"FaLSe".toList, rfl⟩
  have hbefore : Text.Blank ['\u3000'] := by simp [Text.Blank, Text.whiteSpace]
  have hafter : Text.Blank ['\n'] := by simp [Text.Blank, Text.whiteSpace]
  have hcase : Ascii.Recased value (Utf8.ofString "False") :=
    .cons (.inl rfl) (.cons (.inl rfl) (.cons (.inr (.inr rfl)) (.cons (.inr (.inr rfl))
      (.cons (.inl rfl) .nil))))
  obtain ⟨-, hread, hrecased, -⟩ := ofEnvironment_reads_switch value
  exact ⟨htext, hbefore, hafter, hcase, (hread htext).1 _ _ hbefore hafter, hrecased _ hcase⟩

end Settings

end ContainerLaunch
