import ContainerLaunch.Proofs.AsciiBytes
import ContainerLaunch.Proofs.Printable
import ContainerLaunch.Proofs.Runs

/-!
# Colours are decoration

A coloured line is the plain line with control sequences put in between its characters.  Which
ones, and in which order, depends on the level of the event and on how many activities and fields
there are, but on none of the values: these are quoted, so a line has no escape character of its
own.  Hence a line without its control sequences is the plain line.
-/

namespace ContainerLaunch.Journal

open Text

/-! ## Control sequences -/

variable {c : Char} {coloured coloured' plain plain' : Text} {numbers numbers' : List Nat}

theorem sequenceLength_of_ne (h : c ≠ escape) (rest : Text) : sequenceLength (c :: rest) = 0 := by
  cases rest with
  | nil => rfl
  | cons bracket rest => exact if_neg fun hsequence ↦ h hsequence.1

theorem sequenceLength_colourSequence (number : Nat) (rest : Text) :
    sequenceLength (colourSequence number ++ rest) = (decimal number).length + 3 := by
  have hdigits : (decimal number ++ 'm' :: rest).takeWhile Char.isDigit = decimal number := by
    rw [List.takeWhile_append_of_pos fun c hc ↦ isDigit_of_mem_decimal hc]
    exact List.append_nil _
  have hsequence : colourSequence number ++ rest =
      escape :: '[' :: (decimal number ++ 'm' :: rest) := by
    simp [colourSequence]
  rw [hsequence, sequenceLength, hdigits, List.drop_left]
  exact if_pos ⟨rfl, rfl, Nat.toDigits_ne_nil, rfl⟩

theorem uncolourFrom_append (skipped rest : Text) :
    uncolourFrom skipped.length (skipped ++ rest) = uncolour rest := by
  induction skipped with
  | nil => rfl
  | cons c skipped ih => exact ih

theorem uncolour_cons_of_ne (h : c ≠ escape) (rest : Text) :
    uncolour (c :: rest) = c :: uncolour rest := by
  rw [uncolour, uncolourFrom, sequenceLength_of_ne h]
  rfl

theorem uncolour_colourSequence_append (number : Nat) (rest : Text) :
    uncolour (colourSequence number ++ rest) = uncolour rest := by
  let others := '[' :: (decimal number ++ ['m'])
  have hsequence : colourSequence number ++ rest = escape :: (others ++ rest) := rfl
  have hlength : sequenceLength (escape :: (others ++ rest)) = others.length + 1 := by
    rw [← hsequence, sequenceLength_colourSequence]
    simp [others]
  calc
    _ = uncolourFrom 0 (escape :: (others ++ rest)) := congrArg uncolour hsequence
    _ = uncolourFrom others.length (others ++ rest) := by rw [uncolourFrom, hlength]
    _ = uncolour rest := uncolourFrom_append others rest

theorem count_colourSequence (number : Nat) : (colourSequence number).count escape = 1 := by
  have hnumber : (decimal number).count escape = 0 :=
    List.count_eq_zero.mpr (notMem_decimal (by decide) number)
  rw [colourSequence, List.count_append, List.count_append, hnumber]
  rfl

/-! ## Decorated texts -/

/-- The coloured text is the plain one with control sequences of these numbers put in, in this
order, and neither has an escape character of its own. -/
inductive Decorates : (numbers : List Nat) → (coloured plain : Text) → Prop where
  | nil : Decorates [] [] []
  | char {c : Char} {numbers : List Nat} {coloured plain : Text} (hc : c ≠ escape)
      (h : Decorates numbers coloured plain) : Decorates numbers (c :: coloured) (c :: plain)
  | sequence (number : Nat) {numbers : List Nat} {coloured plain : Text}
      (h : Decorates numbers coloured plain) :
      Decorates (number :: numbers) (colourSequence number ++ coloured) plain

namespace Decorates

theorem uncolour_eq (h : Decorates numbers coloured plain) : uncolour coloured = plain := by
  induction h with
  | nil => rfl
  | char hc _ ih => rw [uncolour_cons_of_ne hc, ih]
  | sequence number _ ih => rw [uncolour_colourSequence_append, ih]

theorem escape_notMem (h : Decorates numbers coloured plain) : escape ∉ plain := by
  induction h with
  | nil => exact List.not_mem_nil
  | char hc _ ih =>
    rw [List.mem_cons, not_or]
    exact ⟨hc.symm, ih⟩
  | sequence number _ ih => exact ih

/-- Every escape character opens a sequence that was put in. -/
theorem count_escape (h : Decorates numbers coloured plain) :
    coloured.count escape = numbers.length := by
  induction h with
  | nil => rfl
  | char hc _ ih => rw [List.count_cons_of_ne hc, ih]
  | sequence number _ ih =>
    rw [List.count_append, count_colourSequence, ih, List.length_cons, Nat.add_comm]

theorem append (h : Decorates numbers coloured plain) (h' : Decorates numbers' coloured' plain') :
    Decorates (numbers ++ numbers') (coloured ++ coloured') (plain ++ plain') := by
  induction h with
  | nil => exact h'
  | char hc _ ih => exact .char hc ih
  | sequence number _ ih =>
    rw [List.append_assoc]
    exact .sequence number ih

theorem of_printable {text : Text} (h : Printable text) : Decorates [] text text := by
  induction text with
  | nil => exact .nil
  | cons c text ih =>
    obtain ⟨hc, htext⟩ := printable_cons.mp h
    refine .char ?_ (ih htext)
    rintro rfl
    exact not_isControl_of_not_isUnprintable hc (.inl (by decide))

theorem paint (number : Nat) (h : Decorates numbers coloured plain) :
    Decorates (number :: numbers ++ [0]) (Journal.paint .coloured number coloured) plain := by
  have hend : Decorates [0] (colourSequence 0) [] := .sequence 0 .nil
  have happend := (Decorates.sequence number h).append hend
  rw [List.append_nil] at happend
  exact happend

theorem flatMap {α : Type} {items : List α} {numbers : α → List Nat} {coloured plain : α → Text}
    (h : ∀ item ∈ items, Decorates (numbers item) (coloured item) (plain item)) :
    Decorates (items.flatMap numbers) (items.flatMap coloured) (items.flatMap plain) := by
  induction items with
  | nil => exact .nil
  | cons item items ih =>
    have hitem := h item (.head _)
    have hitems := ih fun next hnext ↦ h next (.tail _ hnext)
    exact hitem.append hitems

end Decorates

/-! ## Coloured lines -/

/-- The control sequences in a field that is written in colours. -/
def fieldHues : List Nat := [italic, 0, dim, 0]

theorem decorates_writtenField {field : Text × Text} (h : Printable field.1 ∧ Printable field.2) :
    Decorates fieldHues (writtenField .coloured field) (writtenField .plain field) := by
  have hname : Decorates [italic, 0] (paint .coloured italic field.1) field.1 :=
    (Decorates.of_printable h.1).paint italic
  have hsign : Decorates [dim, 0] (paint .coloured dim ['=']) ['='] :=
    (Decorates.of_printable (printable_of_ascii (by decide))).paint dim
  exact (hname.append hsign).append (Decorates.of_printable h.2)

namespace Record

/-- The control sequences in a line that is written in colours.  They are the same for all
activities and fields, whatever their values are. -/
def hues (record : Record) : List Nat :=
  [record.event.level.colour, 0] ++ (record.spans.flatMap fun _ ↦ [bold, 0]) ++
    (record.event.fields.flatMap fun _ ↦ fieldHues) ++
    (record.spans.flatMap fun _ ↦ dim :: fieldHues ++ [0])

theorem decorates_line (record : Record) :
    Decorates record.hues (record.line .coloured) (record.line .plain) := by
  have hblank : Decorates [] [' '] [' '] := .of_printable (printable_of_ascii (by decide))
  have hcolon : Decorates [] [':'] [':'] := .of_printable (printable_of_ascii (by decide))
  have hlabel := (Decorates.of_printable record.event.level.printable_label).paint
    record.event.level.colour
  have hnames := Decorates.flatMap fun span (_ : span ∈ record.spans) ↦
    ((Decorates.of_printable span.printable_name).paint bold).append hcolon
  have hgap : Decorates [] (if record.spans.isEmpty then [] else [' '])
      (if record.spans.isEmpty then [] else [' ']) := by
    split
    next => exact .nil
    next => exact hblank
  have hmessage := Decorates.of_printable record.event.printable_message
  have hfields := Decorates.flatMap fun field (hfield : field ∈ record.event.fields) ↦
    hblank.append (decorates_writtenField (Event.printable_fields hfield))
  have hspans := Decorates.flatMap fun span (_ : span ∈ record.spans) ↦
    hblank.append ((decorates_writtenField span.printable_field).paint dim)
  have hline := (((((hlabel.append hblank).append hnames).append hgap).append hmessage).append
    hfields).append hspans
  simp only [List.append_nil, List.nil_append] at hline
  exact hline

end Record

/-! ## Coloured entries -/

/-- The control sequences in what a coloured journal says of a record. -/
def entryHues (verbosity : Verbosity) (record : Record) : List Nat :=
  ((verbosity.kept record).map Record.hues).getD []

theorem decorates_entry (verbosity : Verbosity) (record : Record) :
    Decorates (entryHues verbosity record) (entry ⟨verbosity, .coloured⟩ record)
      (entry ⟨verbosity, .plain⟩ record) := by
  unfold entryHues entry
  cases verbosity.kept record with
  | none => exact .nil
  | some kept =>
    have hnewline : Decorates [] ['\n'] ['\n'] := .char (by decide) .nil
    have hentry := kept.decorates_line.append hnewline
    rw [List.append_nil] at hentry
    exact hentry

/-- In two runs that differ in the style of the journal alone, each entry of the one is the entry of
the other without its control sequences. -/
theorem exists_entries_eq (host : Host) (program : Program) :
    let run (style : Style) := { program with style }.run host
    ∃ texts : List Text,
      (run .coloured).effects.entries (run .coloured).journal = texts.map Utf8.encode ∧
        (run .plain).effects.entries (run .plain).journal =
          texts.map fun text ↦ Utf8.encode (uncolour text) := by
  intro run
  obtain ⟨verbosity, effects, code, hrun⟩ := Program.exists_run_eq host program
  simp only [run, hrun]
  cases verbosity with
  | none => exact ⟨[], Effects.entries_none effects, Effects.entries_none effects⟩
  | some kept =>
    let texts := effects.records.map (entry ⟨kept, .coloured⟩)
    have hplain : effects.records.map (entry ⟨kept, .plain⟩) = texts.map uncolour := by
      rw [List.map_map]
      apply List.map_congr_left
      intro record _
      exact (decorates_entry kept record).uncolour_eq.symm
    refine ⟨texts, ?_, ?_⟩
    · exact (Effects.entries_some _ effects).trans List.map_map.symm
    · calc
        effects.entries (some ⟨kept, .plain⟩)
        _ = (effects.records.map (entry ⟨kept, .plain⟩)).map Utf8.encode :=
          (Effects.entries_some _ effects).trans List.map_map.symm
        _ = texts.map (Utf8.encode ∘ uncolour) := by rw [hplain, List.map_map]

/-- Colours add nothing to a journal and take nothing from it.  Leaving the control sequences out of
a coloured entry gives the plain entry, of any record and with either verbosity.  The plain entry
has no escape character, and the coloured one only those of its own sequences, so an escape byte
among the values of a record reaches neither.  The same holds entry by entry for whole runs. -/
theorem colours_decorate_entries :
    (∀ (verbosity : Verbosity) (record : Record),
      let plain := entry ⟨verbosity, .plain⟩ record
      let coloured := entry ⟨verbosity, .coloured⟩ record
      uncolour coloured = plain ∧
        escape ∉ plain ∧ 0x1B ∉ Utf8.encode plain ∧
        Decorates (entryHues verbosity record) coloured plain ∧
        (Utf8.encode coloured).count 0x1B = (entryHues verbosity record).length) ∧
      ∀ (host : Host) (program : Program),
        let run (style : Style) := { program with style }.run host
        ∃ texts : List Text,
          (run .coloured).effects.entries (run .coloured).journal = texts.map Utf8.encode ∧
            (run .plain).effects.entries (run .plain).journal =
              texts.map fun text ↦ Utf8.encode (uncolour text) := by
  refine ⟨?_, exists_entries_eq⟩
  intro verbosity record plain coloured
  have hdecorates : Decorates (entryHues verbosity record) coloured plain :=
    decorates_entry verbosity record
  have hplain : escape ∉ plain := hdecorates.escape_notMem
  have hbyte : 0x1B ∉ Utf8.encode plain :=
    mt (Utf8.mem_encode_iff (c := escape) (by decide)).mp hplain
  have hcount : (Utf8.encode coloured).count 0x1B = coloured.count escape :=
    Utf8.count_encode (c := escape) (by decide) coloured
  exact ⟨hdecorates.uncolour_eq, hplain, hbyte, hdecorates, hcount.trans hdecorates.count_escape⟩

/-- A program that is itself a control sequence is told without one. -/
example :
    let record : Record := ⟨[.child (Utf8.encode (colourSequence 31))], .finished 0⟩
    uncolour (record.line .coloured) =
      ("DEBUG run_inherited: Launcher finished with exit code 0 " ++
        "program=\"\\u\x7b1b\x7d[31m\"").toList := by
  decide +kernel

end ContainerLaunch.Journal
