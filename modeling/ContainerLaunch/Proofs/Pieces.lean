import ContainerLaunch.Text.Ascii
import ContainerLaunch.Text.Utf8.Lemmas
import Mathlib.Data.List.Basic
import Mathlib.Data.List.Induction

/-!
# Byte strings and their pieces

The reader of UTF-8 loses nothing: at every byte, the finished pieces and the pending bytes
together are the bytes read so far.  Hence the pieces of a byte string put it together again.
Fed with the encoding of a character, a reader with nothing pending finishes exactly that
character, so an encoded text is read as its own characters and encoding is injective.  A byte
string is valid exactly when it is the encoding of some text.
-/

namespace ContainerLaunch.Utf8

/-! ## Beginnings of encodings -/

/-- What stands before the last byte of an encoding, or of the beginning of one, is itself the
beginning of one. -/
theorem classify_eq_opening_of_append {bytes : Bytes} {b : UInt8} (hne : bytes ≠ [])
    (h : classify (bytes ++ [b]) ≠ .broken) : classify bytes = .opening := by
  match bytes, hne with
  | [a], _ =>
    simp only [List.cons_append, List.nil_append, classify, Bool.and_eq_true,
      decide_eq_true_eq, ne_eq, ite_eq_right_iff, Classical.not_imp] at h ⊢
    obtain ⟨⟨hlead, -⟩, -⟩ := h
    rw [if_neg (by omega), if_pos hlead]
  | [a, a'], _ =>
    simp only [List.cons_append, List.nil_append, classify, Bool.and_eq_true,
      decide_eq_true_eq, ne_eq, ite_eq_right_iff, Classical.not_imp] at h ⊢
    obtain ⟨⟨⟨hlead, htail⟩, -⟩, -⟩ := h
    rw [if_pos ⟨by omega, htail⟩, if_neg (by omega)]
  | [a, a', a''], _ =>
    simp only [List.cons_append, List.nil_append, classify, Bool.and_eq_true,
      decide_eq_true_eq, ne_eq, ite_eq_right_iff, Classical.not_imp] at h ⊢
    obtain ⟨⟨⟨⟨hlead, htail⟩, htail'⟩, -⟩, -⟩ := h
    rw [if_pos ⟨⟨by omega, htail⟩, htail'⟩, if_neg (by omega)]
  | _ :: _ :: _ :: _ :: _, _ => simp [classify] at h

theorem encodeChar_ne_nil (c : Char) : encodeChar c ≠ [] := by
  intro h
  have hwhole := classify_encodeChar c
  rw [h] at hwhole
  simp [classify] at hwhole

/-! ## What the reader has read -/

/-- Pending bytes that are given up make one stray piece, no bytes make none. -/
theorem flatMap_bytes_cut (pending : Bytes) :
    (if pending = [] then [] else [Piece.stray pending]).flatMap Piece.bytes = pending := by
  cases pending <;> simp [Piece.bytes]

/-- One step keeps the pending bytes and the new one, in their order. -/
theorem bytes_advance (pending : Bytes) (b : UInt8) :
    (advance pending b).1.flatMap Piece.bytes ++ (advance pending b).2 = pending ++ [b] := by
  have hcut := flatMap_bytes_cut pending
  cases h : classify (pending ++ [b]) with
  | whole c => simp [advance, h, Piece.bytes, encodeChar_of_classify h]
  | opening => simp [advance, h]
  | broken =>
    simp only [advance, h]
    cases hb : classify [b] with
    | whole c => simp [hcut, Piece.bytes, encodeChar_of_classify hb]
    | opening => simp [hcut]
    | broken => simp [hcut, Piece.bytes]

namespace Reader

/-- The bytes a reader has been fed. -/
def bytes (reader : Reader) : Bytes :=
  reader.found.reverse.flatMap Piece.bytes ++ reader.pending

theorem bytes_feed (reader : Reader) (b : UInt8) :
    (reader.feed b).bytes = reader.bytes ++ [b] := by
  simp only [bytes, feed, List.reverse_append, List.reverse_reverse, List.flatMap_append,
    List.append_assoc]
  rw [bytes_advance]

theorem bytes_foldl_feed (reader : Reader) (fed : Bytes) :
    (fed.foldl feed reader).bytes = reader.bytes ++ fed := by
  induction fed generalizing reader with
  | nil => simp
  | cons b fed ih =>
    calc
      _ = (reader.feed b).bytes ++ fed := ih (reader.feed b)
      _ = reader.bytes ++ [b] ++ fed := by rw [bytes_feed]
      _ = reader.bytes ++ b :: fed := by rw [List.append_assoc, List.singleton_append]

theorem bytes_finish (reader : Reader) : reader.finish.flatMap Piece.bytes = reader.bytes := by
  have hreverse (last : Piece) : (if reader.pending = [] then [] else [last]).reverse =
      if reader.pending = [] then [] else [last] := by
    split <;> rfl
  simp only [finish, bytes, List.reverse_append, List.flatMap_append, List.isEmpty_iff]
  rw [hreverse, flatMap_bytes_cut]

/-- Before the last byte of an encoding, or of the beginning of one, all bytes are pending. -/
theorem foldl_feed_before_last (found : List Piece) {fed : Bytes} {b : UInt8}
    (h : classify (fed ++ [b]) ≠ .broken) : fed.foldl feed ⟨found, []⟩ = ⟨found, fed⟩ := by
  induction fed using List.reverseRecOn generalizing b with
  | nil => rfl
  | append_singleton fed a ih =>
    have hopening : classify (fed ++ [a]) = .opening :=
      classify_eq_opening_of_append (by simp) h
    have hfed : fed.foldl feed ⟨found, []⟩ = ⟨found, fed⟩ := ih (b := a) (by simp [hopening])
    rw [List.foldl_append, hfed]
    simp [feed, advance, hopening]

/-- A reader with nothing pending finishes the character it is fed the encoding of. -/
theorem foldl_feed_encodeChar (found : List Piece) (c : Char) :
    (encodeChar c).foldl feed ⟨found, []⟩ = ⟨.char c :: found, []⟩ := by
  obtain ⟨fed, b, hfed⟩ : ∃ fed b, encodeChar c = fed ++ [b] :=
    ⟨_, _, (List.dropLast_concat_getLast (encodeChar_ne_nil c)).symm⟩
  have hwhole : classify (fed ++ [b]) = .whole c := hfed ▸ classify_encodeChar c
  have hpending : fed.foldl feed ⟨found, []⟩ = ⟨found, fed⟩ :=
    foldl_feed_before_last found (b := b) (by simp [hwhole])
  rw [hfed, List.foldl_append, hpending]
  simp [feed, advance, hwhole]

theorem foldl_feed_encode (found : List Piece) (text : Text) :
    (encode text).foldl feed ⟨found, []⟩ = ⟨(text.map Piece.char).reverse ++ found, []⟩ := by
  induction text generalizing found with
  | nil => rfl
  | cons c text ih =>
    rw [encode, List.flatMap_cons, List.foldl_append, foldl_feed_encodeChar]
    exact (ih _).trans (by simp)

end Reader

/-! ## Runs of the reader -/

/-- The pieces of a byte string put it together again. -/
theorem flatMap_bytes_pieces (bytes : Bytes) : (pieces bytes).flatMap Piece.bytes = bytes := by
  calc
    _ = (bytes.foldl Reader.feed ⟨[], []⟩).bytes := Reader.bytes_finish _
    _ = Reader.bytes ⟨[], []⟩ ++ bytes := Reader.bytes_foldl_feed _ bytes
    _ = bytes := rfl

/-- An encoded text has its characters for pieces. -/
theorem pieces_encode (text : Text) : pieces (encode text) = text.map Piece.char := by
  rw [pieces, Reader.foldl_feed_encode]
  simp [Reader.finish]

theorem encode_injective : Function.Injective encode := by
  intro text text' h
  have hpieces : text.map Piece.char = text'.map Piece.char := by
    calc
      _ = pieces (encode text) := (pieces_encode text).symm
      _ = pieces (encode text') := congrArg pieces h
      _ = _ := pieces_encode text'
  exact List.map_injective_iff.mpr (fun _ _ ↦ Piece.char.inj) hpieces

/-- Bytes in whose pieces there are no stray ones are the encoding of what they are read as. -/
theorem encode_decodeLossy {bytes : Bytes} (h : isValid bytes = true) :
    encode (decodeLossy bytes) = bytes := by
  have hchars : ∀ piece ∈ pieces bytes, encodeChar piece.shown = piece.bytes := by
    intro piece hpiece
    have hchar : piece.isChar = true := List.all_eq_true.mp h piece hpiece
    cases piece with
    | char c => rfl
    | stray bytes => cases hchar
  calc
    _ = (pieces bytes).flatMap fun piece ↦ encodeChar piece.shown := List.flatMap_map ..
    _ = (pieces bytes).flatMap Piece.bytes := List.flatMap_congr hchars
    _ = bytes := flatMap_bytes_pieces bytes

theorem isValid_iff_exists_encode {bytes : Bytes} :
    isValid bytes = true ↔ ∃ text, encode text = bytes := by
  constructor
  · intro h
    exact ⟨decodeLossy bytes, encode_decodeLossy h⟩
  · rintro ⟨text, rfl⟩
    rw [isValid, pieces_encode, List.all_map]
    exact List.all_eq_true.mpr fun c _ ↦ rfl

/-- Decoding loses nothing of an encoded text. -/
theorem decodeLossy_encode (text : Text) : decodeLossy (encode text) = text := by
  rw [decodeLossy, pieces_encode, List.map_map]
  exact List.map_id text

theorem decode?_encode (text : Text) : decode? (encode text) = some text := by
  have hvalid : isValid (encode text) = true := isValid_iff_exists_encode.mpr ⟨text, rfl⟩
  rw [decode?, if_pos hvalid, decodeLossy_encode]

end ContainerLaunch.Utf8
