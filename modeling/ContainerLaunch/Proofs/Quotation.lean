import ContainerLaunch.Proofs.Pieces
import ContainerLaunch.Text.Quoted
import Mathlib.Tactic.SplitIfs

/-!
# Reading quoted texts

`Quoted.read` takes back what `Quoted.write` wrote, whatever follows the closing quote.  The reader
is between two escapes before and after every escape, so it is enough to follow it through one
character and through one stray byte; the pieces of a byte string are then read one after another.
-/

namespace ContainerLaunch.Quoted

open Utf8

/-! ## Hexadecimal digits -/

theorem digitValue?_digitChar {digit : Nat} (h : digit < 16) :
    digitValue? (Nat.digitChar digit) = some digit := by
  have hall : ∀ d : Fin 16, digitValue? (Nat.digitChar d) = some d.val := by decide
  exact hall ⟨digit, h⟩

theorem digitChar_ne_closing {digit : Nat} (h : digit < 16) :
    Nat.digitChar digit ≠ '\x7d' := by
  have hall : ∀ d : Fin 16, Nat.digitChar d ≠ '\x7d' := by decide
  exact hall ⟨digit, h⟩

theorem digitValue?_upperDigit {digit : Nat} (h : digit < 16) :
    digitValue? (upperDigit digit) = some digit := by
  have hall : ∀ d : Fin 16, digitValue? (upperDigit d) = some d.val := by decide
  exact hall ⟨digit, h⟩

theorem readFrom_digitChar (value : Nat) {digit : Nat} (h : digit < 16) (rest : Text) :
    readFrom (.digits value) (Nat.digitChar digit :: rest) =
      readFrom (.digits (value * 16 + digit)) rest := by
  rw [readFrom, if_neg (digitChar_ne_closing h), digitValue?_digitChar h]
  rfl

/-- The digits of a number, read from the value zero, have the number for their value. -/
theorem readFrom_toDigits (n : Nat) (rest : Text) :
    readFrom (.digits 0) (Nat.toDigits 16 n ++ rest) = readFrom (.digits n) rest := by
  induction n using Nat.strongRecOn generalizing rest with
  | ind n ih =>
    rw [Nat.toDigits_eq_if (by decide)]
    split
    next hsmall => simpa using readFrom_digitChar 0 hsmall rest
    next hlarge =>
      have hdigit : n % 16 < 16 := Nat.mod_lt n (by decide)
      rw [List.append_assoc]
      calc
        _ = readFrom (.digits (n / 16)) (Nat.digitChar (n % 16) :: rest) :=
          ih (n / 16) (by omega) _
        _ = readFrom (.digits (n / 16 * 16 + n % 16)) rest := readFrom_digitChar _ hdigit rest
        _ = _ := by rw [Nat.div_add_mod']

/-! ## One escape -/

theorem give_append (bytes bytes' : Bytes) (later : Option (Bytes × Text)) :
    readFrom.give bytes (readFrom.give bytes' later) = readFrom.give (bytes ++ bytes') later := by
  cases later <;> simp [readFrom.give]

/-- The six characters that have an escape of their own. -/
theorem readFrom_letter {c letter : Char} (rest : Text)
    (h : (c, letter) ∈ [('"', '"'), ('\\', '\\'), ('\n', 'n'), ('\r', 'r'), ('\t', 't'),
      ('\x00', '0')]) :
    readFrom .between ('\\' :: letter :: rest) =
      readFrom.give (encodeChar c) (readFrom .between rest) := by
  simp only [List.mem_cons, Prod.mk.injEq, List.not_mem_nil, or_false] at h
  rcases h with ⟨rfl, rfl⟩ | ⟨rfl, rfl⟩ | ⟨rfl, rfl⟩ | ⟨rfl, rfl⟩ | ⟨rfl, rfl⟩ | ⟨rfl, rfl⟩ <;> rfl

theorem readFrom_escapeChar (c : Char) (rest : Text) :
    readFrom .between (escapeChar c ++ rest) =
      readFrom.give (encodeChar c) (readFrom .between rest) := by
  unfold escapeChar
  split_ifs with hquote hbackslash hnewline hreturn htab hzero hunprintable
  · exact readFrom_letter rest (by simp [hquote])
  · exact readFrom_letter rest (by simp [hbackslash])
  · exact readFrom_letter rest (by simp [hnewline])
  · exact readFrom_letter rest (by simp [hreturn])
  · exact readFrom_letter rest (by simp [htab])
  · exact readFrom_letter rest (by simp [hzero])
  · have hdigits := readFrom_toDigits c.toNat ('\x7d' :: rest)
    simp only [List.cons_append, List.nil_append, List.append_assoc, readFrom]
    simpa [readFrom, Char.ofNat_toNat] using hdigits
  · rw [List.singleton_append, readFrom, if_neg hquote, if_neg hbackslash]

theorem readFrom_escapeByte (b : UInt8) (rest : Text) :
    readFrom .between (escapeByte b ++ rest) = readFrom.give [b] (readFrom .between rest) := by
  have hb := b.toNat_lt
  have hhigh : digitValue? (upperDigit (b.toNat / 16)) = some (b.toNat / 16) :=
    digitValue?_upperDigit (by omega)
  have hlow : digitValue? (upperDigit (b.toNat % 16)) = some (b.toNat % 16) :=
    digitValue?_upperDigit (by omega)
  have hbyte : UInt8.ofNat (b.toNat / 16 * 16 + b.toNat % 16) = b := byte_ofNat (by omega)
  simp only [escapeByte, List.cons_append, List.nil_append, readFrom, hhigh, hlow,
    Option.bind_some, hbyte]
  simp

theorem readFrom_flatMap_escapeByte (bytes : Bytes) (rest : Text) :
    readFrom .between (bytes.flatMap escapeByte ++ rest) =
      readFrom.give bytes (readFrom .between rest) := by
  induction bytes with
  | nil => cases h : readFrom .between rest <;> simp [h, readFrom.give]
  | cons b bytes ih =>
    rw [List.flatMap_cons, List.append_assoc, readFrom_escapeByte, ih, give_append,
      List.singleton_append]

theorem readFrom_escapePiece (piece : Piece) (rest : Text) :
    readFrom .between (escapePiece piece ++ rest) =
      readFrom.give piece.bytes (readFrom .between rest) := by
  cases piece with
  | char c => exact readFrom_escapeChar c rest
  | stray bytes => exact readFrom_flatMap_escapeByte bytes rest

/-! ## A whole quoted text -/

theorem readFrom_flatMap_escapePiece (written : List Piece) (rest : Text) :
    readFrom .between (written.flatMap escapePiece ++ '"' :: rest) =
      some (written.flatMap Piece.bytes, rest) := by
  induction written with
  | nil => simp [readFrom]
  | cons piece written ih =>
    rw [List.flatMap_cons, List.append_assoc, readFrom_escapePiece, ih]
    simp [readFrom.give]

/-- A quoted text is read back up to its closing quote, whatever follows. -/
theorem read_write_append (bytes : Bytes) (rest : Text) :
    read (write bytes ++ rest) = some (bytes, rest) := by
  have h := readFrom_flatMap_escapePiece (pieces bytes) rest
  rw [flatMap_bytes_pieces] at h
  simpa [write, read] using h

end ContainerLaunch.Quoted
