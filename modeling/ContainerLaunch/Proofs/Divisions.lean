import ContainerLaunch.Proofs.AsciiBytes
import ContainerLaunch.Proofs.WellFormed

/-!
# Dividing bytes into pieces

The rule by which any bytes fall into pieces is stated without the reader: a piece is a well-formed
sequence, or the beginning of one that the next byte does not continue, or else a byte that begins
none.  There is one division by this rule, and the reader finds it.  A text is what its own bytes
are decoded to, so bytes are valid exactly when decoding keeps them.
-/

namespace ContainerLaunch.Utf8

variable {bytes rest rest' first first' front : Bytes} {b : UInt8} {c : Char}
  {piece piece' : Piece} {division division' : List Piece}

/-- Given the bytes that follow, these first ones make up one piece. -/
inductive Covers (rest : Bytes) : Piece → Bytes → Prop
  /-- A well-formed sequence yields its character. -/
  | char {sequence : Bytes} {c : Char} : Encodes sequence c → Covers rest (.char c) sequence
  /-- The beginning of a well-formed sequence is given up where the bytes end, or where the next
  one does not continue it. -/
  | cut {opening : Bytes} : Opens opening →
      (∀ next ∈ rest.head?, ¬Begins (opening ++ [next])) → Covers rest (.stray opening) opening
  /-- A byte that begins no well-formed sequence stands alone. -/
  | alien {b : UInt8} : ¬Begins [b] → Covers rest (.stray [b]) [b]

/-- The pieces, one after another, make up the bytes. -/
inductive Divides : List Piece → Bytes → Prop
  | nil : Divides [] []
  | cons {piece : Piece} {division : List Piece} {first rest : Bytes} :
      Covers rest piece first → Divides division rest → Divides (piece :: division) (first ++ rest)

/-! ## One division at most -/

theorem Covers.ne_nil (h : Covers rest piece first) : first ≠ [] := by
  rintro rfl
  cases h with
  | char hsequence => exact encodeChar_ne_nil _ (encodes_iff.mp hsequence).symm
  | cut hopens => exact absurd hopens.1 (by simp)

/-- A piece goes no further than it does, because the next byte does not continue it. -/
theorem Covers.not_begins (h : Covers rest piece first) :
    ∀ next ∈ rest.head?, ¬Begins (first ++ [next]) := by
  intro next hnext hbegins
  cases h with
  | char hsequence =>
    have hne : first ≠ [] := by
      rw [encodes_iff.mp hsequence]
      exact encodeChar_ne_nil _
    have hcontinued : classify (first ++ [next]) ≠ .broken :=
      (classify_ne_broken_iff (by simp)).mpr hbegins
    have hopening : classify first = .opening := classify_eq_opening_of_append hne hcontinued
    exact hsequence.not_opens (classify_eq_opening_iff.mp hopening)
  | cut _ hlast => exact hlast next hnext hbegins
  | @alien b halone => exact halone (hbegins.of_isPrefix (List.prefix_append [b] [next]))

/-- Only a byte that stands alone begins no well-formed sequence. -/
theorem Covers.begins_of_isPrefix (h : Covers rest piece first) (hbeginning : front <+: first)
    (hlong : 2 ≤ front.length) : Begins front := by
  cases h with
  | char hsequence => exact ⟨first, _, hsequence, hbeginning⟩
  | cut hopens => exact hopens.begins.of_isPrefix hbeginning
  | alien =>
    have hshort : front.length ≤ 1 := hbeginning.length_le
    omega

/-- Of two pieces the same bytes begin with, neither is longer. -/
theorem Covers.between_eq_nil {between : Bytes} (h : Covers (between ++ rest') piece first)
    (h' : Covers rest' piece' (first ++ between)) : between = [] := by
  cases between with
  | nil => rfl
  | cons next between =>
    have hbeginning : first ++ [next] <+: first ++ next :: between := by
      rw [List.prefix_append_right_inj]
      exact ⟨between, rfl⟩
    have hlong : 2 ≤ (first ++ [next]).length := by
      have hpos := List.length_pos_iff.mpr h.ne_nil
      rw [List.length_append, List.length_singleton]
      omega
    exact absurd (h'.begins_of_isPrefix hbeginning hlong) (h.not_begins next rfl)

/-- The same bytes make up the same piece, whatever follows them. -/
theorem Covers.piece_eq (h : Covers rest piece first) (h' : Covers rest' piece' first) :
    piece = piece' := by
  cases h with
  | char hsequence =>
    cases h' with
    | char hsequence' =>
      have hnumber := hsequence.spelled.symm.trans hsequence'.spelled
      rw [Char.toNat_inj.mp (Option.some.inj hnumber)]
    | cut hopens => exact absurd hopens hsequence.not_opens
    | alien halone => exact absurd ⟨_, _, hsequence, List.prefix_refl _⟩ halone
  | cut hopens =>
    cases h' with
    | char hsequence' => exact absurd hopens hsequence'.not_opens
    | cut | alien => rfl
  | alien halone =>
    cases h' with
    | char hsequence' => exact absurd ⟨_, _, hsequence', List.prefix_refl _⟩ halone
    | cut | alien => rfl

/-- The same bytes begin with one piece only. -/
theorem Covers.append_inj (h : Covers rest piece first) (h' : Covers rest' piece' first')
    (hbytes : first ++ rest = first' ++ rest') : first = first' ∧ rest = rest' := by
  rcases List.append_eq_append_iff.mp hbytes with ⟨between, rfl, rfl⟩ | ⟨between, rfl, rfl⟩
  · have hnothing : between = [] := h.between_eq_nil h'
    simp [hnothing]
  · have hnothing : between = [] := h'.between_eq_nil h
    simp [hnothing]

theorem Divides.unique (h : Divides division bytes) (h' : Divides division' bytes) :
    division = division' := by
  induction h generalizing division' with
  | nil =>
    generalize hbytes : ([] : Bytes) = bytes at h'
    cases h' with
    | nil => rfl
    | cons hcovers' _ => exact absurd (List.append_eq_nil_iff.mp hbytes.symm).1 hcovers'.ne_nil
  | @cons piece division first rest hcovers _ ih =>
    generalize hbytes : first ++ rest = bytes at h'
    cases h' with
    | nil => exact absurd (List.append_eq_nil_iff.mp hbytes).1 hcovers.ne_nil
    | @cons piece' division' first' rest' hcovers' hdivides' =>
      obtain ⟨rfl, rfl⟩ := hcovers.append_inj hcovers' hbytes
      rw [hcovers.piece_eq hcovers', ih hdivides']

/-! ## The division the reader finds -/

section Step

variable {pending : Bytes}

/-- What is pending after a byte begins a well-formed sequence, if it is anything at all. -/
theorem advance_pending (pending : Bytes) (b : UInt8) :
    (advance pending b).2 = [] ∨ Opens (advance pending b).2 := by
  unfold advance
  cases h : classify (pending ++ [b]) with
  | whole c => exact .inl rfl
  | opening => exact .inr (classify_eq_opening_iff.mp h)
  | broken =>
    cases hb : classify [b] with
    | whole c => exact .inl rfl
    | opening => exact .inr (classify_eq_opening_iff.mp hb)
    | broken => exact .inl rfl

theorem advance_of_whole (h : classify (pending ++ [b]) = .whole c) :
    advance pending b = ([.char c], []) := by
  rw [advance, h]

theorem advance_of_opening (h : classify (pending ++ [b]) = .opening) :
    advance pending b = ([], pending ++ [b]) := by
  rw [advance, h]

theorem advance_nil_of_broken (h : classify [b] = .broken) :
    advance [] b = ([.stray [b]], []) := by
  simp [advance, h]

/-- A byte that does not continue what is pending is read as if nothing were. -/
theorem advance_of_broken (hne : pending ≠ []) (h : classify (pending ++ [b]) = .broken) :
    advance pending b = (.stray pending :: (advance [] b).1, (advance [] b).2) := by
  simp only [advance, h, List.nil_append]
  cases classify [b] <;> simp [hne]

theorem not_begins_of_classify (hne : bytes ≠ []) (h : classify bytes = .broken) :
    ¬Begins bytes := by
  rw [← classify_ne_broken_iff hne]
  exact not_not_intro h

/-- A byte that continues what is pending. -/
theorem Divides.step_of_continued (hcontinued : classify (pending ++ [b]) ≠ .broken)
    (h : Divides division ((advance pending b).2 ++ rest)) :
    Divides ((advance pending b).1 ++ division) (pending ++ b :: rest) := by
  rw [List.append_cons]
  cases hform : classify (pending ++ [b]) with
  | whole c =>
    rw [advance_of_whole hform] at h ⊢
    have hencodes : Encodes (pending ++ [b]) c :=
      encodes_iff.mpr (encodeChar_of_classify hform).symm
    exact .cons (.char hencodes) h
  | opening =>
    rw [advance_of_opening hform] at h ⊢
    exact h
  | broken => exact absurd hform hcontinued

/-- A byte with nothing pending before it. -/
theorem Divides.step_nil (h : Divides division ((advance [] b).2 ++ rest)) :
    Divides ((advance [] b).1 ++ division) (b :: rest) := by
  by_cases hform : classify [b] = .broken
  · have halone : ¬Begins [b] := not_begins_of_classify (List.cons_ne_nil b []) hform
    rw [advance_nil_of_broken hform] at h ⊢
    exact .cons (.alien halone) h
  · exact Divides.step_of_continued hform h

/-- The pieces that are finished at a byte come before those into which falls what is then pending
and what is still to be read. -/
theorem Divides.step (hpending : pending = [] ∨ Opens pending)
    (h : Divides division ((advance pending b).2 ++ rest)) :
    Divides ((advance pending b).1 ++ division) (pending ++ b :: rest) := by
  rcases hpending with rfl | hopens
  · exact Divides.step_nil h
  · by_cases hform : classify (pending ++ [b]) = .broken
    · have hne : pending ≠ [] := List.length_pos_iff.mp hopens.1
      have hcut : ∀ next ∈ (b :: rest).head?, ¬Begins (pending ++ [next]) := by
        intro next hnext
        obtain rfl := Option.some.inj hnext
        exact not_begins_of_classify (by simp) hform
      rw [advance_of_broken hne hform] at h ⊢
      exact .cons (.cut hopens hcut) (Divides.step_nil h)
    · exact Divides.step_of_continued hform h

end Step

/-- The pieces of the bytes for a reader that has some pending. -/
def piecesAfter (pending bytes : Bytes) : List Piece :=
  (bytes.foldl Reader.feed ⟨[], pending⟩).finish

theorem piecesAfter_cons (pending : Bytes) (b : UInt8) (bytes : Bytes) :
    piecesAfter pending (b :: bytes) =
      (advance pending b).1 ++ piecesAfter (advance pending b).2 bytes := by
  have hfeed : Reader.feed ⟨[], pending⟩ b =
      Reader.after (advance pending b).1.reverse ⟨[], (advance pending b).2⟩ := by
    simp [Reader.feed, Reader.after]
  unfold piecesAfter
  rw [List.foldl_cons, hfeed, Reader.foldl_feed_after, Reader.finish_after, List.reverse_reverse]

theorem divides_piecesAfter {pending : Bytes} (hpending : pending = [] ∨ Opens pending)
    (bytes : Bytes) : Divides (piecesAfter pending bytes) (pending ++ bytes) := by
  induction bytes generalizing pending with
  | nil =>
    rcases hpending with rfl | hopens
    · exact .nil
    · have hne : pending ≠ [] := List.length_pos_iff.mp hopens.1
      have hlast : piecesAfter pending [] = [.stray pending] := by
        simp [piecesAfter, Reader.finish, hne]
      rw [hlast]
      exact .cons (.cut hopens (by simp)) .nil
  | cons b bytes ih =>
    rw [piecesAfter_cons]
    exact Divides.step hpending (ih (advance_pending pending b))

theorem divides_pieces (bytes : Bytes) : Divides (pieces bytes) bytes :=
  divides_piecesAfter (.inl rfl) bytes

theorem divides_iff : Divides division bytes ↔ division = pieces bytes :=
  ⟨fun h ↦ h.unique (divides_pieces bytes), fun h ↦ h ▸ divides_pieces bytes⟩

/-! ## Valid bytes -/

/-- Valid UTF-8: well-formed sequences, one after another. -/
def Valid (bytes : Bytes) : Prop :=
  ∃ sequences : List Bytes, (∀ sequence ∈ sequences, ∃ c, Encodes sequence c) ∧
    bytes = sequences.flatten

theorem valid_iff_exists_encode : Valid bytes ↔ ∃ text, encode text = bytes := by
  constructor
  · rintro ⟨sequences, hsequences, rfl⟩
    induction sequences with
    | nil => exact ⟨[], rfl⟩
    | cons sequence sequences ih =>
      obtain ⟨⟨c, hc⟩, hothers⟩ := List.forall_mem_cons.mp hsequences
      obtain ⟨text, htext⟩ := ih hothers
      refine ⟨c :: text, ?_⟩
      rw [List.flatten_cons, ← htext, encodes_iff.mp hc]
      exact List.flatMap_cons
  · rintro ⟨text, rfl⟩
    refine ⟨text.map encodeChar, ?_, List.flatMap_def ..⟩
    intro sequence hsequence
    obtain ⟨c, -, rfl⟩ := List.mem_map.mp hsequence
    exact ⟨c, encodes_iff.mpr rfl⟩

theorem valid_iff_encode_decodeLossy : Valid bytes ↔ encode (decodeLossy bytes) = bytes := by
  rw [valid_iff_exists_encode]
  constructor
  · intro h
    exact encode_decodeLossy (isValid_iff_exists_encode.mpr h)
  · intro h
    exact ⟨decodeLossy bytes, h⟩

/-- Any bytes fall into pieces by the rule in one way, and each piece is decoded to one character,
which is a replacement unless it is well-formed.  So a text is decoded from its own bytes, what has
been decoded is not changed by encoding and decoding it again, and decoding keeps the bytes exactly
when they are valid. -/
theorem decodeLossy_replaces_maximal_pieces (bytes : Bytes) :
    (∃ division, Divides division bytes ∧ (∀ other, Divides other bytes → other = division) ∧
        decodeLossy bytes = division.map fun piece ↦
          match piece with
          | .char c => c
          | .stray _ => '\ufffd') ∧
      (∀ text, encode text = bytes → decodeLossy bytes = text) ∧
      decodeLossy (encode (decodeLossy bytes)) = decodeLossy bytes ∧
      (Valid bytes ↔ encode (decodeLossy bytes) = bytes) := by
  have hunique : ∀ other, Divides other bytes → other = pieces bytes := fun other ↦
    divides_iff.mp
  refine ⟨⟨pieces bytes, divides_pieces bytes, hunique, ?_⟩, ?_, decodeLossy_encode _,
    valid_iff_encode_decodeLossy⟩
  · rfl
  · rintro text rfl
    exact decodeLossy_encode text

/-- Four bytes are announced and two given; after the letter, a byte out of the range that the one
before it leaves. -/
example : decodeLossy [0xF0, 0x9F, 0x41, 0xE0, 0x80] = "\ufffdA\ufffd\ufffd".toList := by
  decide

end ContainerLaunch.Utf8
