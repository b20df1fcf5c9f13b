import ContainerLaunch.Command
import ContainerLaunch.Proofs.AsciiBytes
import ContainerLaunch.Proofs.Separators

/-!
# Decoding a line part by part or as a whole

The line of a command is joined from decoded parts.  Joining the parts byte for byte and decoding
the whole gives the same line, for the blank between two parts is an ASCII byte: a part that breaks
off within a character takes neither the blank nor anything behind it, and a part that begins
within one adds nothing to the part before it.  The bytes of the line are those of the parts
exactly when every part is a text.
-/

namespace ContainerLaunch

theorem map_intercalate {α β : Type} (f : α → β) (separator : List α) (parts : List (List α)) :
    (separator.intercalate parts).map f =
      (separator.map f).intercalate (parts.map (List.map f)) := by
  cases parts with
  | nil => rfl
  | cons part parts =>
    rw [List.map_cons, intercalate_cons, intercalate_cons]
    simp [List.map_flatMap, List.flatMap_map]

namespace Utf8

variable {c : Char}

/-- Parts joined at an ASCII character have their own pieces, and the character between them. -/
theorem pieces_intercalate (hc : c.toNat < 0x80) (parts : List Bytes) :
    pieces ([.ofNat c.toNat].intercalate parts) =
      [.char c].intercalate (parts.map pieces) := by
  have hbyte : (UInt8.ofNat c.toNat).toNat = c.toNat := by
    rw [UInt8.toNat_ofNat']
    omega
  cases parts with
  | nil => rfl
  | cons part parts =>
    induction parts generalizing part with
    | nil => simp
    | cons next parts ih =>
      rw [List.intercalate_cons_cons, List.append_assoc, List.singleton_append,
        pieces_append_cons_of_ascii _ _ (by rw [hbyte]; exact hc), hbyte, Char.ofNat_toNat, ih next]
      simp

theorem decodeLossy_intercalate (hc : c.toNat < 0x80) (parts : List Bytes) :
    decodeLossy ([.ofNat c.toNat].intercalate parts) = Text.join [c] (parts.map decodeLossy) := by
  rw [decodeLossy, pieces_intercalate hc, map_intercalate, List.map_map]
  rfl

/-- What is stray in joined parts is stray in one of them. -/
theorem stray_mem_pieces_intercalate_iff (hc : c.toNat < 0x80) {parts : List Bytes}
    {stray : Bytes} :
    .stray stray ∈ pieces ([.ofNat c.toNat].intercalate parts) ↔
      ∃ part ∈ parts, .stray stray ∈ pieces part := by
  rw [pieces_intercalate hc]
  cases parts with
  | nil => simp
  | cons part parts =>
    rw [List.map_cons, intercalate_cons]
    simp

theorem isValid_intercalate_iff (hc : c.toNat < 0x80) {parts : List Bytes} :
    isValid ([.ofNat c.toNat].intercalate parts) = true ↔
      ∀ part ∈ parts, isValid part = true := by
  rw [isValid, pieces_intercalate hc]
  cases parts with
  | nil => simp
  | cons part parts =>
    rw [List.map_cons, intercalate_cons]
    simp [isValid, Piece.isChar]

end Utf8

namespace Command

/-- The parts of a command byte for byte, with a blank between every two. -/
def joined (command : Command) : Bytes := [Ascii.blank].intercalate command.vector

theorem pieces_joined (command : Command) :
    Utf8.pieces command.joined = [.char ' '].intercalate (command.vector.map Utf8.pieces) :=
  Utf8.pieces_intercalate (c := ' ') (by decide) command.vector

theorem decodeLossy_joined (command : Command) :
    Utf8.decodeLossy command.joined = command.line :=
  Utf8.decodeLossy_intercalate (c := ' ') (by decide) command.vector

theorem stray_mem_pieces_joined_iff {command : Command} {stray : Bytes} :
    .stray stray ∈ Utf8.pieces command.joined ↔
      ∃ part ∈ command.vector, .stray stray ∈ Utf8.pieces part :=
  Utf8.stray_mem_pieces_intercalate_iff (c := ' ') (by decide)

/-- The line keeps the bytes of the parts where it is read from texts, and there only. -/
theorem encode_line_eq_joined_iff {command : Command} :
    Utf8.encode command.line = command.joined ↔
      ∀ part ∈ command.vector, ∃ text, Utf8.encode text = part := by
  have hvalid : Utf8.isValid command.joined = true ↔
      ∀ part ∈ command.vector, Utf8.isValid part = true :=
    Utf8.isValid_intercalate_iff (c := ' ') (by decide)
  simp only [Utf8.isValid_iff_exists_encode] at hvalid
  rw [← hvalid]
  constructor
  · intro h
    exact ⟨command.line, h⟩
  · intro h
    rw [← decodeLossy_joined]
    exact Utf8.encode_decodeLossy (Utf8.isValid_iff_exists_encode.mpr h)

/-- It makes no difference whether the parts of a command are decoded before they are joined or
after.  The joined bytes fall into the pieces of every part and the blanks between the parts, so
that no stray bytes reach from one part to another or to a blank.  The line is these bytes when all
parts are texts, and differs from them when one is not. -/
theorem joined_decodes_part_by_part (command : Command) :
    Text.join [' '] (command.vector.map Utf8.decodeLossy) = Utf8.decodeLossy command.joined ∧
      command.line = Utf8.decodeLossy command.joined ∧
      Utf8.pieces command.joined = [.char ' '].intercalate (command.vector.map Utf8.pieces) ∧
      (∀ stray, .stray stray ∈ Utf8.pieces command.joined ↔
        ∃ part ∈ command.vector, .stray stray ∈ Utf8.pieces part) ∧
      (Utf8.encode command.line = command.joined ↔
        ∀ part ∈ command.vector, ∃ text, Utf8.encode text = part) := by
  have hline : command.line = Utf8.decodeLossy command.joined := (decodeLossy_joined command).symm
  exact ⟨hline, hline, pieces_joined command, fun _ ↦ stray_mem_pieces_joined_iff,
    encode_line_eq_joined_iff⟩

/-- A lead of two bytes and one of four, cut off before a blank, and after it a byte that would
have continued either. -/
example : line ⟨[0x61, 0xC3], [[0xF0, 0x9F], [0xA9]]⟩ = "a\ufffd \ufffd \ufffd".toList := by
  decide

end Command

end ContainerLaunch
