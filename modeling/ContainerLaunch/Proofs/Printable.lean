import ContainerLaunch.Journal.Line
import ContainerLaunch.Proofs.Lossless

/-!
# Printable texts

A quoted text is printable throughout, whatever bytes it shows: what it does not write by number or
by a letter stands for itself.  So is everything built of quoted texts, fixed words and digits, up
to whole lines of a journal without colours.
-/

namespace ContainerLaunch

namespace Text

/-- No character of the text is a control character or any other without a mark of its own. -/
def Printable (text : Text) : Prop := ∀ c ∈ text, isUnprintable c = false

/-- The control characters of Unicode: those before the blank, and those from delete on. -/
def IsControl (c : Char) : Prop := c.toNat < 0x20 ∨ (0x7F ≤ c.toNat ∧ c.toNat < 0xA0)

theorem not_isControl_of_not_isUnprintable {c : Char} (h : isUnprintable c = false) :
    ¬IsControl c := by
  simp only [isUnprintable, List.any_eq_false, Bool.and_eq_true, decide_eq_true_eq,
    Prod.forall] at h
  have hfirst := h 0x0 0x1F (.head _)
  have hsecond := h 0x7F 0xA0 (.tail _ (.head _))
  unfold IsControl
  omega

/-- The runs of unprintable characters leave out the ASCII characters from the blank on. -/
theorem not_isUnprintable_of_ascii {c : Char} (h : 0x20 ≤ c.toNat ∧ c.toNat < 0x7F) :
    isUnprintable c = false := by
  have hranges : ∀ range ∈ unprintableRanges, range.2 < 0x20 ∨ 0x7F ≤ range.1 := by
    decide +kernel
  simp only [isUnprintable, List.any_eq_false, Bool.and_eq_true, decide_eq_true_eq]
  intro range hrange
  have hoff := hranges range hrange
  omega

@[simp]
theorem printable_nil : Printable [] := by simp [Printable]

@[simp]
theorem printable_append {text text' : Text} :
    Printable (text ++ text') ↔ Printable text ∧ Printable text' := by
  simp only [Printable, List.mem_append, or_imp, forall_and]

@[simp]
theorem printable_cons {c : Char} {text : Text} :
    Printable (c :: text) ↔ isUnprintable c = false ∧ Printable text := by
  simp [Printable]

theorem printable_flatMap {α : Type} {items : List α} {shown : α → Text}
    (h : ∀ item ∈ items, Printable (shown item)) : Printable (items.flatMap shown) := by
  intro c hc
  obtain ⟨item, hitem, hc⟩ := List.mem_flatMap.mp hc
  exact h item hitem c hc

theorem printable_join {separator : Text} {parts : List Text} (hseparator : Printable separator)
    (h : ∀ part ∈ parts, Printable part) : Printable (join separator parts) := by
  cases parts with
  | nil => simp [join]
  | cons part parts =>
    rw [join_cons, printable_append]
    refine ⟨h part (.head _), printable_flatMap fun next hnext ↦ ?_⟩
    exact printable_append.mpr ⟨hseparator, h next (.tail _ hnext)⟩

/-- Fixed words are checked for ASCII characters alone, which is quick. -/
theorem printable_of_ascii {text : Text}
    (h : (text.all fun c ↦ 0x20 ≤ c.toNat && c.toNat < 0x7F) = true) : Printable text := by
  simp only [List.all_eq_true, Bool.and_eq_true, decide_eq_true_eq] at h
  exact fun c hc ↦ not_isUnprintable_of_ascii (h c hc)

/-! ## Digits -/

theorem exists_digitChar_of_mem_toDigits {base n : Nat} {c : Char} (hbase : 1 < base)
    (h : c ∈ Nat.toDigits base n) : ∃ digit < base, c = Nat.digitChar digit := by
  induction n using Nat.strongRecOn with
  | ind n ih =>
    rw [Nat.toDigits_eq_if hbase] at h
    split at h
    next hsmall => exact ⟨n, hsmall, List.mem_singleton.mp h⟩
    next hlarge =>
      rcases List.mem_append.mp h with hfront | hlast
      · exact ih (n / base) (Nat.div_lt_self (by omega) hbase) hfront
      · exact ⟨n % base, Nat.mod_lt n (by omega), List.mem_singleton.mp hlast⟩

theorem not_isUnprintable_digitChar {digit : Nat} (h : digit < 16) :
    isUnprintable (Nat.digitChar digit) = false := by
  have hall : ∀ d : Fin 16, 0x20 ≤ (Nat.digitChar d).toNat ∧ (Nat.digitChar d).toNat < 0x7F := by
    decide
  exact not_isUnprintable_of_ascii (hall ⟨digit, h⟩)

theorem printable_toDigits {base : Nat} (hbase : 1 < base) (hsmall : base ≤ 16) (n : Nat) :
    Printable (Nat.toDigits base n) := by
  intro c hc
  obtain ⟨digit, hdigit, rfl⟩ := exists_digitChar_of_mem_toDigits hbase hc
  exact not_isUnprintable_digitChar (by omega)

theorem printable_decimal (n : Nat) : Printable (decimal n) :=
  printable_toDigits (by decide) (by decide) n

end Text

open Text

/-! ## Quoted texts -/

namespace Quoted

theorem printable_escapeChar (c : Char) : Printable (escapeChar c) := by
  unfold escapeChar
  split_ifs with hquote hbackslash hnewline hreturn htab hzero hunprintable
  · exact printable_of_ascii (by decide)
  · exact printable_of_ascii (by decide)
  · exact printable_of_ascii (by decide)
  · exact printable_of_ascii (by decide)
  · exact printable_of_ascii (by decide)
  · exact printable_of_ascii (by decide)
  · rw [printable_append, printable_append]
    exact ⟨⟨printable_of_ascii (by decide), printable_toDigits (by decide) (by decide) _⟩,
      printable_of_ascii (by decide)⟩
  · simpa using hunprintable

theorem not_isUnprintable_upperDigit {digit : Nat} (h : digit < 16) :
    isUnprintable (upperDigit digit) = false := by
  have hall : ∀ d : Fin 16, 0x20 ≤ (upperDigit d).toNat ∧ (upperDigit d).toNat < 0x7F := by decide
  exact not_isUnprintable_of_ascii (hall ⟨digit, h⟩)

theorem printable_escapeByte (b : UInt8) : Printable (escapeByte b) := by
  have hb := b.toNat_lt
  have hhigh : isUnprintable (upperDigit (b.toNat / 16)) = false :=
    not_isUnprintable_upperDigit (by omega)
  have hlow : isUnprintable (upperDigit (b.toNat % 16)) = false :=
    not_isUnprintable_upperDigit (by omega)
  have hbackslash : isUnprintable '\\' = false := not_isUnprintable_of_ascii (by decide)
  have hletter : isUnprintable 'x' = false := not_isUnprintable_of_ascii (by decide)
  simp [escapeByte, hhigh, hlow, hbackslash, hletter]

theorem printable_escapePiece (piece : Utf8.Piece) : Printable (escapePiece piece) := by
  cases piece with
  | char c => exact printable_escapeChar c
  | stray bytes => exact printable_flatMap fun b _ ↦ printable_escapeByte b

theorem printable_write (bytes : Bytes) : Printable (write bytes) := by
  have hquote : Printable ['"'] := printable_of_ascii (by decide)
  rw [write, printable_append, printable_append]
  exact ⟨⟨hquote, printable_flatMap fun piece _ ↦ printable_escapePiece piece⟩, hquote⟩

end Quoted

/-! ## Shown values -/

namespace Shown

theorem printable_list {α : Type} {shown : α → Text} (h : ∀ item, Printable (shown item))
    (items : List α) : Printable (list shown items) := by
  rw [list, printable_append, printable_append]
  refine ⟨⟨printable_of_ascii (by decide), printable_join (printable_of_ascii (by decide)) ?_⟩,
    printable_of_ascii (by decide)⟩
  intro part hpart
  obtain ⟨item, -, rfl⟩ := List.mem_map.mp hpart
  exact h item

theorem printable_byteStrings (items : List Bytes) : Printable (byteStrings items) :=
  printable_list Quoted.printable_write items

theorem printable_field {name : String} {value : Text} (hname : Printable name.toList)
    (hvalue : Printable value) : Printable (field name value) := by
  rw [field, printable_append, printable_append]
  exact ⟨⟨hname, printable_of_ascii (by decide)⟩, hvalue⟩

theorem printable_record {name : String} {fields : List Text} (hname : Printable name.toList)
    (hfields : ∀ shown ∈ fields, Printable shown) : Printable (record name fields) := by
  rw [record, printable_append, printable_append, printable_append]
  exact ⟨⟨⟨hname, printable_of_ascii (by decide)⟩,
    printable_join (printable_of_ascii (by decide)) hfields⟩, printable_of_ascii (by decide)⟩

end Shown

theorem Request.printable_shown (request : Request) : Printable request.shown := by
  refine Shown.printable_record (printable_of_ascii (by decide)) ?_
  simp only [List.forall_mem_cons, List.not_mem_nil, false_imp_iff, implies_true, and_true]
  exact ⟨Shown.printable_field (printable_of_ascii (by decide)) (Shown.printable_byteStrings _),
    Shown.printable_field (printable_of_ascii (by decide)) (Quoted.printable_write _),
    Shown.printable_field (printable_of_ascii (by decide)) (Quoted.printable_write _),
    Shown.printable_field (printable_of_ascii (by decide)) (Quoted.printable_write _)⟩

/-! ## Lines of a journal -/

namespace Journal

theorem Span.printable_name (span : Span) : Printable span.name := by
  cases span <;> exact printable_of_ascii rfl

theorem Span.printable_field (span : Span) :
    Printable span.field.1 ∧ Printable span.field.2 := by
  cases span with
  | executing arguments | preparing arguments =>
    exact ⟨printable_of_ascii rfl, Shown.printable_byteStrings arguments⟩
  | child program => exact ⟨printable_of_ascii rfl, Quoted.printable_write program⟩

theorem Event.printable_message (event : Event) : Printable event.message := by
  cases event with
  | unpacked | prepared | running | succeeded => exact printable_of_ascii rfl
  | exited code | finished code =>
    exact printable_append.mpr ⟨printable_of_ascii (by decide), printable_decimal code⟩

theorem Event.printable_fields {event : Event} {field : Text × Text} (h : field ∈ event.fields) :
    Printable field.1 ∧ Printable field.2 := by
  cases event with
  | unpacked request =>
    obtain rfl := List.mem_singleton.mp h
    exact ⟨printable_of_ascii rfl, request.printable_shown⟩
  | prepared command | running command =>
    obtain rfl := List.mem_singleton.mp h
    exact ⟨printable_of_ascii rfl, Shown.printable_byteStrings _⟩
  | succeeded | exited | finished => exact absurd h (List.not_mem_nil)

theorem Level.printable_label (level : Level) : Printable level.label := by
  cases level <;> exact printable_of_ascii (by decide)

theorem printable_writtenField {field : Text × Text}
    (h : Printable field.1 ∧ Printable field.2) :
    Printable ([' '] ++ writtenField .plain field) := by
  simp only [writtenField, paint, printable_append]
  exact ⟨printable_of_ascii (by decide), ⟨h.1, printable_of_ascii (by decide)⟩, h.2⟩

/-- Whatever a record is about, its line has no control characters. -/
theorem Record.printable_line (record : Record) : Printable (record.line .plain) := by
  simp only [line, paint, printable_append]
  refine ⟨⟨⟨⟨⟨⟨?_, ?_⟩, ?_⟩, ?_⟩, ?_⟩, ?_⟩, ?_⟩
  · exact record.event.level.printable_label
  · exact printable_of_ascii (by decide)
  · exact printable_flatMap fun span _ ↦
      printable_append.mpr ⟨span.printable_name, printable_of_ascii (by decide)⟩
  · split
    next => exact printable_nil
    next => exact printable_of_ascii (by decide)
  · exact record.event.printable_message
  · exact printable_flatMap fun field hfield ↦
      printable_writtenField (Event.printable_fields hfield)
  · exact printable_flatMap fun span _ ↦ printable_writtenField span.printable_field

end Journal

end ContainerLaunch
