import ContainerLaunch.Proofs.AsciiBytes
import ContainerLaunch.Proofs.Course
import ContainerLaunch.Proofs.Separators

/-!
# Reading announced lines

A line is not quoted, so a blank in it may stand between two parts of the command or within one,
and a newline may be the one at its end or one of a part.  How many of either there are can be told
from the bytes of the command, since decoding keeps their number.  Where no part holds a blank the
line falls into the parts again, and where the parts are texts besides, it tells the command.
-/

namespace ContainerLaunch

namespace Command

variable {command command' : Command}

/-! ## Blanks and newlines of a line -/

theorem count_flatten_vector_eq_zero_iff {b : UInt8} :
    command.vector.flatten.count b = 0 ↔ ∀ part ∈ command.vector, b ∉ part := by
  simp only [List.count_eq_zero, List.mem_flatten, not_exists, not_and]

theorem count_line {c : Char} (hc : c.toNat < 0x80) (command : Command) :
    command.line.count c =
      command.vector.flatten.count (.ofNat c.toNat) +
        command.arguments.length * [' '].count c := by
  unfold line vector
  rw [List.map_cons, count_join, List.length_map, ← List.map_cons, List.count_flatten,
    List.count_flatten, List.map_map]
  simp only [Function.comp_def, Utf8.count_decodeLossy hc]

theorem length_splitOn_line (command : Command) :
    (command.line.splitOn ' ').length =
      command.vector.length + command.vector.flatten.count Ascii.blank := by
  have hcount : command.line.count ' ' =
      command.vector.flatten.count Ascii.blank + command.arguments.length * 1 :=
    count_line (by decide) command
  have hlength : command.vector.length = command.arguments.length + 1 := rfl
  rw [length_splitOn, hcount, hlength]
  omega

theorem splitOn_line_eq_iff :
    command.line.splitOn ' ' = command.vector.map Utf8.decodeLossy ↔
      ∀ part ∈ command.vector, Ascii.blank ∉ part := by
  have hblank (part : Bytes) : ' ' ∈ Utf8.decodeLossy part ↔ Ascii.blank ∈ part :=
    Utf8.mem_decodeLossy_iff (by decide)
  have hne : command.vector.map Utf8.decodeLossy ≠ [] := List.cons_ne_nil _ _
  rw [line, splitOn_join_eq_iff hne]
  simp only [List.forall_mem_map, hblank]

theorem count_announcement (command : Command) :
    (Launch.announcement command).count Ascii.newline =
      1 + command.vector.flatten.count Ascii.newline := by
  have hencoded : (Utf8.encode command.line).count Ascii.newline = command.line.count '\n' :=
    Utf8.count_encode (c := '\n') (by decide) command.line
  have hcount : command.line.count '\n' =
      command.vector.flatten.count Ascii.newline + command.arguments.length * 0 :=
    count_line (by decide) command
  rw [Launch.announcement_eq, List.count_append, List.count_singleton_self, hencoded, hcount]
  omega

/-- The bytes end with the only newline they have. -/
def OneLine (bytes : Bytes) : Prop :=
  ∃ line, Ascii.newline ∉ line ∧ bytes = line ++ [Ascii.newline]

theorem oneLine_announcement_iff :
    OneLine (Launch.announcement command) ↔ ∀ part ∈ command.vector, Ascii.newline ∉ part := by
  have hcount := count_announcement command
  rw [← count_flatten_vector_eq_zero_iff]
  constructor
  · rintro ⟨line, hline, hannounced⟩
    rw [hannounced, List.count_append, List.count_eq_zero.mpr hline,
      List.count_singleton_self] at hcount
    omega
  · intro hnone
    refine ⟨Utf8.encode command.line, List.count_eq_zero.mp ?_, Launch.announcement_eq command⟩
    rw [Launch.announcement_eq, List.count_append, List.count_singleton_self] at hcount
    omega

/-! ## What a line tells -/

/-- Every part is a text, and none of them holds a blank. -/
def Plain (command : Command) : Prop :=
  ∀ part ∈ command.vector, (∃ text, Utf8.encode text = part) ∧ Ascii.blank ∉ part

theorem vector_injective : Function.Injective vector := by
  intro command command' h
  obtain ⟨hprogram, harguments⟩ := List.cons.inj h
  exact Command.ext hprogram harguments

theorem Plain.map_encode_splitOn (h : command.Plain) :
    (command.line.splitOn ' ').map Utf8.encode = command.vector := by
  rw [splitOn_line_eq_iff.mpr fun part hpart ↦ (h part hpart).2, List.map_map]
  calc
    _ = command.vector.map id := List.map_congr_left fun part hpart ↦
      Utf8.encode_decodeLossy (Utf8.isValid_iff_exists_encode.mpr (h part hpart).1)
    _ = command.vector := List.map_id _

/-- What can be relied on in the line of any command.  It falls at the blanks into as many parts as
the command has, and one more for every blank in them, so into the decoded parts themselves exactly
where there is none.  What is announced has one newline and those of the parts, so it is one line
exactly where there is none.  Plain commands can be told by their lines, and any line by the parts
it is made from. -/
theorem line_reliable (command : Command) :
    let announced := (Launch.announce .accepts command).effects.stdout
    (command.line.splitOn ' ').length =
        command.vector.length + command.vector.flatten.count Ascii.blank ∧
      (command.line.splitOn ' ' = command.vector.map Utf8.decodeLossy ↔
        ∀ part ∈ command.vector, Ascii.blank ∉ part) ∧
      announced = Utf8.encode command.line ++ [Ascii.newline] ∧
      announced.count Ascii.newline =
        1 + command.vector.flatten.count Ascii.newline ∧
      (OneLine announced ↔ ∀ part ∈ command.vector, Ascii.newline ∉ part) ∧
      ∀ command' : Command,
        (command.Plain → command'.Plain → command.line = command'.line →
          command.program = command'.program ∧ command.arguments = command'.arguments) ∧
        (command.vector = command'.vector → command.line = command'.line) := by
  intro announced
  have hannounced : announced = Launch.announcement command :=
    List.append_nil _
  rw [hannounced]
  refine ⟨length_splitOn_line command, splitOn_line_eq_iff, Launch.announcement_eq command,
    count_announcement command, oneLine_announcement_iff, fun command' ↦ ⟨?_, ?_⟩⟩
  · intro hplain hplain' hline
    have hvector : command.vector = command'.vector := by
      rw [← hplain.map_encode_splitOn, ← hplain'.map_encode_splitOn, hline]
    exact List.cons.inj hvector
  · intro hvector
    rw [vector_injective hvector]

/-- Without quotes a blank within a part looks like one between two parts. -/
example : line ⟨Utf8.ofString "a b", []⟩ = line ⟨Utf8.ofString "a", [Utf8.ofString "b"]⟩ := by
  decide

end Command

end ContainerLaunch
