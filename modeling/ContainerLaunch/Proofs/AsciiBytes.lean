import ContainerLaunch.Proofs.Pieces
import Mathlib.Tactic.SplitIfs

/-!
# ASCII bytes in decoded texts

An ASCII byte is a character of its own wherever it stands: no encoding of another character holds
one, and none is ever a part of a stray piece.  So decoding, however much it loses, neither makes
nor swallows an ASCII character, and each can be counted in the text or in the bytes.  What stands
before it and what stands after it are read as if the other were not there.
-/

namespace ContainerLaunch.Utf8

variable {bytes : Bytes} {b : UInt8} {c : Char}

/-- No byte is an ASCII byte. -/
def BeyondAscii (bytes : Bytes) : Prop := ∀ b ∈ bytes, 0x80 ≤ b.toNat

/-! ## Encodings -/

theorem encodeChar_of_ascii (h : c.toNat < 0x80) : encodeChar c = [.ofNat c.toNat] :=
  if_pos h

theorem beyondAscii_encodeChar (h : 0x80 ≤ c.toNat) : BeyondAscii (encodeChar c) := by
  have hc := toNat_range c
  intro b hb
  simp only [encodeChar, if_neg (Nat.not_lt.mpr h)] at hb
  -- every byte of a longer encoding has its highest bit set
  split_ifs at hb <;>
    simp only [List.mem_cons, List.not_mem_nil, or_false, ← UInt8.toNat_inj,
      UInt8.toNat_ofNat'] at hb <;>
    omega

/-! ## Stray pieces -/

theorem classify_singleton_of_ascii (h : b.toNat < 0x80) :
    classify [b] = .whole (.ofNat b.toNat) :=
  if_pos h

/-- An ASCII byte continues no encoding. -/
theorem classify_append_of_ascii (hne : bytes ≠ []) (h : b.toNat < 0x80) :
    classify (bytes ++ [b]) = .broken := by
  have htail : isTail b.toNat = false := by
    simp only [isTail, Bool.and_eq_false_iff, decide_eq_false_iff_not]
    omega
  rcases bytes with _ | ⟨_, _ | ⟨_, _ | ⟨_, _ | ⟨_, _⟩⟩⟩⟩
  · exact absurd rfl hne
  · simp [classify, isTailOf, htail]
  · simp [classify, htail]
  · simp [classify, htail]
  · simp [classify]

/-- At an ASCII byte the reader gives up what is pending and finishes the byte's character. -/
theorem advance_of_ascii (pending : Bytes) (h : b.toNat < 0x80) :
    advance pending b =
      ((if pending = [] then [] else [.stray pending]) ++ [.char (.ofNat b.toNat)], []) := by
  cases pending with
  | nil => simp [advance, classify_singleton_of_ascii h]
  | cons a pending =>
    have hbroken := classify_append_of_ascii (List.cons_ne_nil a pending) h
    simp only [advance, hbroken, classify_singleton_of_ascii h]
    rfl

namespace Reader

/-- What is pending, or has been found to be stray, holds no ASCII byte. -/
structure Separated (reader : Reader) : Prop where
  pending : BeyondAscii reader.pending
  stray : ∀ bytes, .stray bytes ∈ reader.found → BeyondAscii bytes

theorem Separated.feed {reader : Reader} (h : reader.Separated) (b : UInt8) :
    (reader.feed b).Separated := by
  by_cases hascii : b.toNat < 0x80
  · have hadvance := advance_of_ascii reader.pending hascii
    refine ⟨by simp [Reader.feed, hadvance, BeyondAscii], fun bytes hbytes ↦ ?_⟩
    simp only [Reader.feed, hadvance, List.mem_append, List.mem_reverse,
      List.mem_singleton] at hbytes
    rcases hbytes with (hcut | hchar) | hfound
    · split at hcut
      next => cases hcut
      next =>
        obtain rfl := Piece.stray.inj (List.mem_singleton.mp hcut)
        exact h.pending
    · cases hchar
    · exact h.stray bytes hfound
  · have hbeyond : BeyondAscii (reader.pending ++ [b]) :=
      List.forall_mem_append.mpr
        ⟨h.pending, List.forall_mem_singleton.mpr (Nat.le_of_not_lt hascii)⟩
    -- no byte comes out of the step that did not go into it
    rw [← bytes_advance] at hbeyond
    obtain ⟨hfinished, hpending⟩ := List.forall_mem_append.mp hbeyond
    refine ⟨hpending, fun bytes hbytes ↦ ?_⟩
    rcases List.mem_append.mp hbytes with hnew | hfound
    · intro a ha
      exact hfinished a (List.mem_flatMap.mpr ⟨_, List.mem_reverse.mp hnew, ha⟩)
    · exact h.stray bytes hfound

theorem Separated.foldl_feed {reader : Reader} (h : reader.Separated) (fed : Bytes) :
    (fed.foldl Reader.feed reader).Separated := by
  induction fed generalizing reader with
  | nil => exact h
  | cons b fed ih => exact ih (h.feed b)

end Reader

theorem beyondAscii_of_stray {stray : Bytes} (h : .stray stray ∈ pieces bytes) :
    BeyondAscii stray := by
  have hnothing : Reader.Separated ⟨[], []⟩ := ⟨by simp [BeyondAscii], by simp⟩
  have hread := hnothing.foldl_feed bytes
  rcases List.mem_append.mp (List.mem_reverse.mp h) with hlast | hfound
  · split at hlast
    next => cases hlast
    next =>
      obtain rfl := Piece.stray.inj (List.mem_singleton.mp hlast)
      exact hread.pending
  · exact hread.stray stray hfound

/-! ## Pieces on both sides -/

namespace Reader

/-- The reader as it is when other pieces were found before all of its own. -/
def after (earlier : List Piece) (reader : Reader) : Reader :=
  ⟨reader.found ++ earlier, reader.pending⟩

theorem feed_after (earlier : List Piece) (reader : Reader) (b : UInt8) :
    (reader.after earlier).feed b = (reader.feed b).after earlier := by
  simp only [after, feed, List.append_assoc]

/-- What was found earlier has no part in what is found later. -/
theorem foldl_feed_after (earlier : List Piece) (reader : Reader) (fed : Bytes) :
    fed.foldl feed (reader.after earlier) = (fed.foldl feed reader).after earlier :=
  List.foldl_hom (after earlier) (feed_after earlier)

theorem finish_after (earlier : List Piece) (reader : Reader) :
    (reader.after earlier).finish = earlier.reverse ++ reader.finish := by
  unfold finish after
  rw [← List.reverse_append, List.append_assoc]

/-- An ASCII byte leaves the reader with all that was read before it, nothing pending. -/
theorem feed_of_ascii (reader : Reader) (h : b.toNat < 0x80) :
    reader.feed b = after (.char (.ofNat b.toNat) :: reader.finish.reverse) ⟨[], []⟩ := by
  simp only [feed, advance_of_ascii reader.pending h, finish, after, List.reverse_reverse,
    List.nil_append, List.isEmpty_iff]
  cases reader.pending with
  | nil => rfl
  | cons a pending => rfl

end Reader

/-- The pieces before an ASCII byte and those after it are the same as without the other side: an
encoding that breaks off before the byte takes nothing of what follows, and one that misses its
beginning adds nothing to what precedes. -/
theorem pieces_append_cons_of_ascii (front tail : Bytes) (h : b.toNat < 0x80) :
    pieces (front ++ b :: tail) =
      pieces front ++ .char (.ofNat b.toNat) :: pieces tail := by
  let reader := front.foldl Reader.feed ⟨[], []⟩
  let earlier := .char (.ofNat b.toNat) :: reader.finish.reverse
  calc
    _ = (tail.foldl Reader.feed (reader.feed b)).finish := by
      rw [pieces, List.foldl_append, List.foldl_cons]
    _ = (tail.foldl Reader.feed (Reader.after earlier ⟨[], []⟩)).finish := by
      rw [Reader.feed_of_ascii reader h]
    _ = earlier.reverse ++ pieces tail := by
      rw [Reader.foldl_feed_after, Reader.finish_after, pieces]
    _ = reader.finish ++ .char (.ofNat b.toNat) :: pieces tail := by
      simp only [earlier, List.reverse_cons, List.reverse_reverse, List.append_assoc,
        List.singleton_append]

/-! ## Counting -/

theorem ofNat_notMem_of_beyondAscii (hc : c.toNat < 0x80) (h : BeyondAscii bytes) :
    UInt8.ofNat c.toNat ∉ bytes := by
  intro hmem
  have hbyte := h _ hmem
  rw [UInt8.toNat_ofNat'] at hbyte
  omega

theorem count_encodeChar (hc : c.toNat < 0x80) (c' : Char) :
    (encodeChar c').count (.ofNat c.toNat) = [c'].count c := by
  by_cases hascii : c'.toNat < 0x80
  · rw [encodeChar_of_ascii hascii, List.count_singleton, List.count_singleton]
    have hiff : UInt8.ofNat c'.toNat = UInt8.ofNat c.toNat ↔ c' = c := by
      rw [← UInt8.toNat_inj, ← Char.toNat_inj, UInt8.toNat_ofNat', UInt8.toNat_ofNat']
      omega
    simp only [beq_iff_eq, hiff]
  · have hbeyond := beyondAscii_encodeChar (Nat.le_of_not_lt hascii)
    have hne : c ∉ [c'] := by
      rw [List.mem_singleton]
      rintro rfl
      exact hascii hc
    rw [List.count_eq_zero_of_not_mem (ofNat_notMem_of_beyondAscii hc hbeyond),
      List.count_eq_zero_of_not_mem hne]

theorem count_encode (hc : c.toNat < 0x80) (text : Text) :
    (encode text).count (.ofNat c.toNat) = text.count c := by
  induction text with
  | nil => rfl
  | cons c' text ih =>
    calc
      _ = (encodeChar c').count (.ofNat c.toNat) + (encode text).count (.ofNat c.toNat) :=
        List.count_append
      _ = [c'].count c + text.count c := by rw [count_encodeChar hc, ih]
      _ = ([c'] ++ text).count c := List.count_append.symm

theorem mem_encode_iff {text : Text} (hc : c.toNat < 0x80) :
    .ofNat c.toNat ∈ encode text ↔ c ∈ text := by
  rw [← List.count_pos_iff, ← List.count_pos_iff, count_encode hc]

/-- A piece shows as many of an ASCII character as its bytes hold. -/
theorem count_shown (hc : c.toNat < 0x80) {piece : Piece} (h : piece ∈ pieces bytes) :
    [piece.shown].count c = piece.bytes.count (.ofNat c.toNat) := by
  cases piece with
  | char c' => exact (count_encodeChar hc c').symm
  | stray stray =>
    have hne : c ∉ [Piece.shown (.stray stray)] := by
      rw [List.mem_singleton]
      rintro rfl
      have hreplacement : 0x80 ≤ '\ufffd'.toNat := by decide
      exact Nat.not_lt.mpr hreplacement hc
    have hnone := ofNat_notMem_of_beyondAscii hc (beyondAscii_of_stray h)
    exact (List.count_eq_zero_of_not_mem hne).trans (List.count_eq_zero_of_not_mem hnone).symm

/-- Decoding keeps the number of every ASCII character, whatever else it loses. -/
theorem count_decodeLossy (hc : c.toNat < 0x80) (bytes : Bytes) :
    (decodeLossy bytes).count c = bytes.count (.ofNat c.toNat) := by
  calc
    _ = ((pieces bytes).flatMap fun piece ↦ [piece.shown]).count c := by
      rw [decodeLossy, List.map_eq_flatMap]
    _ = ((pieces bytes).map fun piece ↦ [piece.shown].count c).sum := List.count_flatMap
    _ = ((pieces bytes).map fun piece ↦ piece.bytes.count (.ofNat c.toNat)).sum := by
      rw [List.map_congr_left fun piece hpiece ↦ count_shown hc hpiece]
    _ = ((pieces bytes).flatMap Piece.bytes).count (.ofNat c.toNat) := List.count_flatMap.symm
    _ = _ := by rw [flatMap_bytes_pieces]

theorem mem_decodeLossy_iff (hc : c.toNat < 0x80) :
    c ∈ decodeLossy bytes ↔ .ofNat c.toNat ∈ bytes := by
  rw [← List.count_pos_iff, ← List.count_pos_iff, count_decodeLossy hc]

end ContainerLaunch.Utf8
