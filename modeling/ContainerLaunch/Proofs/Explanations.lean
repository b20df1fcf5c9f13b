import ContainerLaunch.Proofs.Reports
import ContainerLaunch.Proofs.Separators
import Mathlib.Data.List.Basic

/-!
# Reports tell what they report

In the explanation of a report no line is empty but the first.  So the last two adjacent newlines
of a report are those that open its explanation, even where the outermost text imitates one.  From
there on the causes are read one after another.  Only how many there are may be left open: a single
cause can have the words of several, up to ten, with their numbers before them.
-/

namespace ContainerLaunch

/-! ## Numbers -/

theorem Text.decimal_injective : Function.Injective Text.decimal := by
  intro n n' h
  have hread (m : Nat) : Nat.ofDigitChars 10 (Text.decimal m) 0 = m :=
    Nat.ofDigitChars_toDigits (by decide) (by decide)
  rw [← hread n, h, hread]

namespace Report

variable {text text' front front' tail tail' : Text} {width : Nat}

/-! ## Adjacent newlines -/

/-- After every newline there is a character, and it is no newline. -/
def SetIn : Text → Prop
  | [] => True
  | c :: rest => (c = '\n' → ∃ next ∈ rest.head?, next ≠ '\n') ∧ SetIn rest

theorem SetIn.append (h : SetIn text) (h' : SetIn text') : SetIn (text ++ text') := by
  induction text with
  | nil => exact h'
  | cons c text ih =>
    obtain ⟨hfollowed, htext⟩ := h
    refine ⟨fun hnewline ↦ ?_, ih htext⟩
    obtain ⟨next, hnext, hother⟩ := hfollowed hnewline
    exact ⟨next, List.mem_head?_append_of_mem_head? hnext, hother⟩

theorem SetIn.of_append (h : SetIn (text ++ text')) : SetIn text' := by
  induction text with
  | nil => exact h
  | cons c text ih => exact ih h.2

theorem setIn_of_newline_notMem (h : '\n' ∉ text) : SetIn text := by
  induction text with
  | nil => trivial
  | cons c text ih =>
    rw [List.mem_cons, not_or] at h
    exact ⟨fun hnewline ↦ absurd hnewline.symm h.1, ih h.2⟩

theorem setIn_newline_cons (hne : text ≠ []) (h : '\n' ∉ text) : SetIn ('\n' :: text) := by
  obtain ⟨next, rest, rfl⟩ := List.exists_cons_of_ne_nil hne
  exact ⟨fun _ ↦ ⟨next, rfl, fun hnext ↦ h (hnext ▸ List.mem_cons_self)⟩, setIn_of_newline_notMem h⟩

theorem newline_notMem_blanks (width : Nat) : '\n' ∉ blanks width := fun h ↦
  absurd (List.eq_of_mem_replicate h) (by decide)

theorem setIn_indent (width : Nat) (text : Text) : SetIn (indent (width + 1) text) := by
  induction text with
  | nil => trivial
  | cons c text ih =>
    rw [indent_cons]
    refine SetIn.append ?_ ih
    split
    next hnewline =>
      rw [hnewline]
      exact setIn_newline_cons (List.cons_ne_nil _ _) (newline_notMem_blanks (width + 1))
    next hother => exact ⟨fun hnewline ↦ absurd hnewline hother, trivial⟩

/-- No newline stands next to another. -/
def Unbroken (text : Text) : Prop := ¬['\n', '\n'] <:+: text

theorem SetIn.unbroken (h : SetIn text) : Unbroken text := by
  rintro ⟨front, tail, rfl⟩
  rw [List.append_assoc] at h
  obtain ⟨next, hnext, hother⟩ := h.of_append.1 rfl
  exact hother (Option.some.inj hnext).symm

theorem SetIn.unbroken_cons (h : SetIn text) (hhead : text.head? ≠ some '\n') :
    Unbroken ('\n' :: text) := by
  intro hinfix
  rcases List.infix_cons_iff.mp hinfix with ⟨rest, hrest⟩ | hinfix
  · rw [← (List.cons.inj hrest).2] at hhead
    exact hhead rfl
  · exact h.unbroken hinfix

theorem append_newlines_inj (htail : Unbroken ('\n' :: tail)) (htail' : Unbroken ('\n' :: tail'))
    (h : front ++ '\n' :: '\n' :: tail = front' ++ '\n' :: '\n' :: tail') :
    front = front' ∧ tail = tail' :=
  append_mark_inj htail htail' h

/-! ## Explanations -/

theorem indent_injective (width : Nat) : Function.Injective (indent width) :=
  Function.LeftInverse.injective (unindent_indent width)

/-- The causes as they are numbered, the first of them with `start`. -/
def numbered (start : Nat) (causes : List Text) : Text :=
  ((causes.zipIdx start).map fun (cause, n) ↦ numberedCause cause n).flatten

/-- An explanation without its heading. -/
def listing : List Text → Text
  | [cause] => '\n' :: blanks singleWidth ++ indent singleWidth cause
  | causes => numbered 0 causes

theorem explanation_eq {causes : List Text} (hne : causes ≠ []) :
    explanation causes = '\n' :: '\n' :: ("Caused by:".toList ++ listing causes) := by
  match causes, hne with
  | [cause], _ =>
    have hheading : "\n\nCaused by:\n".toList ++ blanks singleWidth =
        '\n' :: '\n' :: ("Caused by:".toList ++ '\n' :: blanks singleWidth) := by decide
    have hlisting : listing [cause] = '\n' :: blanks singleWidth ++ indent singleWidth cause := rfl
    rw [hlisting, ← List.append_assoc]
    exact congrArg (· ++ indent singleWidth cause) hheading
  | first :: second :: causes, _ =>
    have hheading : "\n\nCaused by:".toList = '\n' :: '\n' :: "Caused by:".toList := by decide
    exact congrArg (· ++ numbered 0 (first :: second :: causes)) hheading

theorem numbered_cons (start : Nat) (cause : Text) (causes : List Text) :
    numbered start (cause :: causes) =
      '\n' :: ((Text.decimal start).leftpad 5 ' ' ++ ": ".toList ++
        (indent numberedWidth cause ++ numbered (start + 1) causes)) := by
  have hcons : numbered start (cause :: causes) =
      numberedCause cause start ++ numbered (start + 1) causes := rfl
  rw [hcons, numberedCause]
  simp only [List.append_assoc, List.cons_append, List.nil_append]

/-! ### No empty lines -/

theorem newline_notMem_number (n : Nat) :
    '\n' ∉ (Text.decimal n).leftpad 5 ' ' ++ ": ".toList := by
  have hdecimal : '\n' ∉ Text.decimal n := Text.notMem_decimal (by decide) n
  simp [List.leftpad, hdecimal]

theorem setIn_numbered (start : Nat) (causes : List Text) : SetIn (numbered start causes) := by
  induction causes generalizing start with
  | nil => trivial
  | cons cause causes ih =>
    rw [numbered_cons, ← List.cons_append]
    refine (setIn_newline_cons ?_ (newline_notMem_number start)).append
      ((setIn_indent _ cause).append (ih (start + 1)))
    simp

theorem setIn_listing (causes : List Text) : SetIn (listing causes) := by
  match causes with
  | [] => exact setIn_numbered 0 []
  | [cause] =>
    have hne : blanks singleWidth ≠ [] := List.cons_ne_nil _ _
    exact (setIn_newline_cons hne (newline_notMem_blanks singleWidth)).append (setIn_indent _ cause)
  | first :: second :: causes => exact setIn_numbered 0 (first :: second :: causes)

/-- In what a report says after its outermost text only the first two newlines are adjacent. -/
theorem unbroken_heading_listing (causes : List Text) :
    Unbroken ('\n' :: ("Caused by:".toList ++ listing causes)) := by
  have hheading : SetIn "Caused by:".toList := setIn_of_newline_notMem (by decide)
  have hfirst : "Caused by:".toList.head? = some 'C' := rfl
  refine (hheading.append (setIn_listing causes)).unbroken_cons ?_
  rw [List.head?_append, hfirst, Option.some_or]
  decide

theorem written_eq_written_iff {outermost outermost' : Text} {causes causes' : List Text}
    (hne : causes ≠ []) (hne' : causes' ≠ []) :
    written ⟨outermost, causes⟩ = written ⟨outermost', causes'⟩ ↔
      outermost = outermost' ∧ listing causes = listing causes' := by
  unfold written
  rw [explanation_eq hne, explanation_eq hne']
  constructor
  · intro h
    obtain ⟨houtermost, htail⟩ := append_newlines_inj (unbroken_heading_listing causes)
      (unbroken_heading_listing causes') h
    exact ⟨houtermost, List.append_cancel_left htail⟩
  · rintro ⟨rfl, hlisting⟩
    rw [hlisting]

/-! ### Reading the causes -/

variable {causes causes' : List Text}

/-- The number of a cause stands where the lines of the cause before it have blanks. -/
theorem not_blanks_prefix_number (n : Nat) (rest : Text) :
    ¬blanks numberedWidth <+: (Text.decimal n).leftpad 5 ' ' ++ ": ".toList ++ rest := by
  have hne : Text.decimal n ≠ [] := Nat.toDigits_ne_nil
  obtain ⟨digit, digits, hdecimal⟩ := List.exists_cons_of_ne_nil hne
  have hdigit : digit.isDigit = true := by
    apply Text.isDigit_of_mem_decimal (n := n)
    rw [hdecimal]
    exact List.mem_cons_self
  rintro ⟨more, hmore⟩
  -- the first digit stands in one of the first five columns
  have hcolumn : some digit = some ' ' := by
    calc
      some digit = ((Text.decimal n).leftpad 5 ' ' ++ ": ".toList ++ rest)[4 - digits.length]? := by
        simp [List.leftpad, hdecimal]
      _ = (blanks numberedWidth ++ more)[4 - digits.length]? := by rw [hmore]
      _ = (blanks numberedWidth)[4 - digits.length]? := by
        apply List.getElem?_append_left
        simp [blanks, numberedWidth]
        omega
      _ = some ' ' := List.getElem?_replicate_of_lt (by unfold numberedWidth; omega)
  obtain rfl := Option.some.inj hcolumn
  exact absurd hdigit (by decide)

theorem block_numbered (start : Nat) (causes : List Text) :
    block numberedWidth (numbered start causes) = [] := by
  cases causes with
  | nil => rfl
  | cons cause causes =>
    rw [numbered_cons]
    exact block_newline_cons (not_blanks_prefix_number start _)

theorem eq_of_numbered_eq {start : Nat}
    (h : numbered start causes = numbered start causes') : causes = causes' := by
  induction causes generalizing start causes' with
  | nil =>
    cases causes' with
    | nil => rfl
    | cons cause' others' =>
      rw [numbered_cons] at h
      cases h
  | cons cause causes ih =>
    cases causes' with
    | nil =>
      rw [numbered_cons] at h
      cases h
    | cons cause' others' =>
      rw [numbered_cons, numbered_cons] at h
      have hcauses := List.append_cancel_left (List.cons.inj h).2
      have hindent : indent numberedWidth cause = indent numberedWidth cause' := by
        rw [← block_indent_append (block_numbered (start + 1) causes) cause, hcauses,
          block_indent_append (block_numbered (start + 1) others')]
      obtain rfl := indent_injective numberedWidth hindent
      rw [ih (List.append_cancel_left hcauses)]

/-! ### A cause in place of several -/

/-- A cause behind its number, its further lines set in below. -/
def mergedCause (cause : Text) (number : Nat) : Text :=
  Text.decimal number ++ ": ".toList ++ indent (numberedWidth - singleWidth) cause

/-- Several causes in the words of one, line by line as a report has them but for the blanks that it
would set in the one by. -/
def merged (causes : List Text) : Text :=
  Text.join ['\n'] (causes.zipIdx.map fun (cause, n) ↦ mergedCause cause n)

theorem indent_append (width : Nat) (text text' : Text) :
    indent width (text ++ text') = indent width text ++ indent width text' := List.flatMap_append

theorem indent_of_newline_notMem (width : Nat) (h : '\n' ∉ text) : indent width text = text := by
  induction text with
  | nil => rfl
  | cons c text ih =>
    rw [List.mem_cons, not_or] at h
    rw [indent_cons, if_neg (Ne.symm h.1), ih h.2, List.singleton_append]

theorem indent_indent (width width' : Nat) (text : Text) :
    indent width (indent width' text) = indent (width + width') text := by
  induction text with
  | nil => rfl
  | cons c text ih =>
    rw [indent_cons, indent_append, ih, indent_cons]
    congr 1
    split
    next hnewline =>
      rw [indent_cons, if_pos hnewline,
        indent_of_newline_notMem width (newline_notMem_blanks width'), List.cons_append, blanks,
        blanks, List.replicate_append_replicate]
      rfl
    next hother => rw [indent_cons, if_neg hother, List.singleton_append]; rfl

/-- As long as the numbers have one digit, they are set in as far as a single cause. -/
theorem numberedCause_eq {number : Nat} (h : number < 10) (cause : Text) :
    numberedCause cause number = indent singleWidth ('\n' :: mergedCause cause number) := by
  have hnumber : ∀ number < 10,
      (Text.decimal number).leftpad 5 ' ' = blanks singleWidth ++ Text.decimal number := by
    decide
  have hdigit : '\n' ∉ Text.decimal number ++ ": ".toList := by
    simp [Text.notMem_decimal (by decide : Char.isDigit '\n' = false) number]
  rw [indent_cons, if_pos rfl, mergedCause, indent_append, indent_of_newline_notMem _ hdigit,
    indent_indent, numberedCause, hnumber number h]
  simp only [List.append_assoc, List.cons_append, List.nil_append]
  rfl

theorem numbered_eq_indent {start : Nat} (h : start + causes.length ≤ 10) :
    numbered start causes = indent singleWidth
      (((causes.zipIdx start).map fun (cause, n) ↦ mergedCause cause n).flatMap
        (['\n'] ++ ·)) := by
  induction causes generalizing start with
  | nil => rfl
  | cons cause causes ih =>
    rw [List.length_cons] at h
    have hcons : numbered start (cause :: causes) =
        numberedCause cause start ++ numbered (start + 1) causes := rfl
    rw [hcons, numberedCause_eq (by omega), ih (by omega), ← indent_append]
    rfl

theorem numbered_eq_indent_merged (hne : causes ≠ [])
    (h : causes.length ≤ 10) : numbered 0 causes = indent singleWidth ('\n' :: merged causes) := by
  obtain ⟨cause, others, rfl⟩ := List.exists_cons_of_ne_nil hne
  rw [numbered_eq_indent (by rwa [Nat.zero_add]), merged, Text.join, List.zipIdx_cons,
    List.map_cons, intercalate_cons, List.flatMap_cons]
  rfl

theorem length_block_le {tail : Text} (h : ¬blanks width <+: tail) (front : Text) :
    (block width (front ++ '\n' :: tail)).length ≤ front.length := by
  induction front with
  | nil => rw [List.nil_append, block_newline_cons h]
  | cons c front ih =>
    rw [List.cons_append, block]
    split
    next => exact Nat.zero_le _
    next => exact Nat.succ_le_succ ih

/-- In a text that is set in there is no line that is set in less. -/
theorem indent_ne {tail : Text} (h : ¬blanks width <+: tail) (text front : Text) :
    indent width text ≠ front ++ '\n' :: tail := by
  intro heq
  have hblock : block width (indent width text) = indent width text := by
    have hnothing : block width [] = [] := rfl
    simpa only [List.append_nil] using block_indent_append hnothing text
  have hlength := length_block_le h front
  rw [← heq, hblock, heq, List.length_append, List.length_cons] at hlength
  omega

/-- The eleventh cause has a number of two digits, which stands further out. -/
theorem numbered_ne_indent (h : 10 < causes.length) (text : Text) :
    numbered 0 causes ≠ indent singleWidth text := by
  obtain ⟨cause, others, hdrop⟩ : ∃ cause others, causes.drop 10 = cause :: others :=
    List.exists_cons_of_ne_nil (by simpa using h)
  have hcut : numbered 0 causes = numbered 0 (causes.take 10) ++ numbered 10 (causes.drop 10) := by
    have hlength : (causes.take 10).length = 10 := List.length_take_of_le (Nat.le_of_lt h)
    have hzipIdx : causes.zipIdx = (causes.take 10).zipIdx ++ (causes.drop 10).zipIdx 10 := by
      conv_lhs => rw [← List.take_append_drop 10 causes, List.zipIdx_append, hlength]
    unfold numbered
    rw [hzipIdx, List.map_append, List.flatten_append]
  have hnumber : (Text.decimal 10).leftpad 5 ' ' = "   10".toList := by decide
  rw [hcut, hdrop, numbered_cons, hnumber]
  refine (indent_ne ?_ text _).symm
  rintro ⟨rest, hrest⟩
  have hfourth := congrArg (fun text : Text ↦ text[3]?) hrest
  simp [blanks, singleWidth] at hfourth

/-- The causes of the first list are one, in the words of those of the second. -/
def Merges (causes causes' : List Text) : Prop :=
  2 ≤ causes'.length ∧ causes'.length ≤ 10 ∧ causes = [merged causes']

theorem Merges.length_eq_one (h : Merges causes causes') : causes.length = 1 := by
  rw [h.2.2]
  rfl

theorem Merges.length_ne_one (h : Merges causes causes') : causes'.length ≠ 1 :=
  Nat.ne_of_gt h.1

theorem listing_singleton (cause : Text) :
    listing [cause] = indent singleWidth ('\n' :: cause) := by
  rw [indent_cons, if_pos rfl]
  rfl

theorem listing_of_length_ne_one (h : causes.length ≠ 1) : listing causes = numbered 0 causes := by
  match causes, h with
  | [], _ => rfl
  | _ :: _ :: _, _ => rfl

theorem listing_singleton_eq_listing_iff {cause : Text} (h : causes.length ≠ 1) :
    listing [cause] = listing causes ↔ Merges [cause] causes := by
  rw [listing_singleton, listing_of_length_ne_one h]
  constructor
  · intro heq
    have hne : causes ≠ [] := by
      rintro rfl
      cases heq
    have hfew : causes.length ≤ 10 := by
      by_contra hmany
      exact numbered_ne_indent (Nat.lt_of_not_le hmany) _ heq.symm
    have hseveral : 2 ≤ causes.length := by
      have hpos := List.length_pos_of_ne_nil hne
      omega
    rw [numbered_eq_indent_merged hne hfew] at heq
    refine ⟨hseveral, hfew, ?_⟩
    rw [(List.cons.inj (indent_injective singleWidth heq)).2]
  · rintro ⟨hseveral, hfew, hmerged⟩
    have hne : causes ≠ [] := List.ne_nil_of_length_pos (Nat.lt_of_lt_of_le Nat.two_pos hseveral)
    rw [numbered_eq_indent_merged hne hfew, List.singleton_inj.mp hmerged]

theorem listing_eq_iff_of_length_eq_one (h : causes.length = 1) :
    listing causes = listing causes' ↔ causes = causes' ∨ Merges causes causes' := by
  obtain ⟨cause, rfl⟩ := List.length_eq_one_iff.mp h
  by_cases h' : causes'.length = 1
  · obtain ⟨cause', rfl⟩ := List.length_eq_one_iff.mp h'
    rw [listing_singleton, listing_singleton, (indent_injective singleWidth).eq_iff,
      List.cons_inj_right, List.singleton_inj]
    exact ⟨.inl, Or.rec id fun hmerges ↦ absurd h' hmerges.length_ne_one⟩
  · rw [listing_singleton_eq_listing_iff h']
    refine ⟨.inr, Or.rec ?_ id⟩
    rintro rfl
    exact absurd h h'

/-- A listing tells the causes, but where there are several it may be that of a single one in their
words. -/
theorem listing_eq_iff :
    listing causes = listing causes' ↔
      causes = causes' ∨ Merges causes causes' ∨ Merges causes' causes := by
  by_cases h : causes.length = 1
  · have hno : ¬Merges causes' causes := fun hmerges ↦ hmerges.length_ne_one h
    rw [listing_eq_iff_of_length_eq_one h, or_iff_left hno]
  have hno : ¬Merges causes causes' := fun hmerges ↦ h hmerges.length_eq_one
  by_cases h' : causes'.length = 1
  · rw [eq_comm, listing_eq_iff_of_length_eq_one h', eq_comm, or_iff_right hno]
  · have hno' : ¬Merges causes' causes := fun hmerges ↦ h' hmerges.length_eq_one
    rw [or_iff_right hno, or_iff_left hno', listing_of_length_ne_one h, listing_of_length_ne_one h']
    exact ⟨eq_of_numbered_eq, congrArg (numbered 0)⟩

/-! ### Whole reports -/

variable {report report' : Report}

/-- When it is known how many causes there are, nothing a report tells is lost in its layout. -/
theorem eq_of_written_eq (hlength : report.causes.length = report'.causes.length)
    (h : report.written = report'.written) : report = report' := by
  obtain ⟨outermost, causes⟩ := report
  obtain ⟨outermost', causes'⟩ := report'
  by_cases hnone : causes = []
  · have hnone' : causes' = [] := by
      rw [hnone] at hlength
      exact List.length_eq_zero_iff.mp hlength.symm
    subst hnone hnone'
    exact congrArg (mk · []) (List.append_cancel_right h)
  · have hsome' : causes' ≠ [] := by
      rintro rfl
      exact hnone (List.length_eq_zero_iff.mp hlength)
    obtain ⟨houtermost, hlisting⟩ := (written_eq_written_iff hnone hsome').mp h
    refine congrArg₂ mk houtermost ?_
    rcases listing_eq_iff.mp hlisting with hcauses | hmerges | hmerges
    · exact hcauses
    · exact absurd (hlength ▸ hmerges.length_eq_one) hmerges.length_ne_one
    · exact absurd (hlength ▸ hmerges.length_eq_one) hmerges.length_ne_one

/-- Two adjacent newlines open the explanation, and there are no others in it. -/
theorem eq_nil_of_explanation_eq (hne : causes ≠ [])
    (h : explanation causes = front ++ '\n' :: '\n' :: tail) : front = [] := by
  rw [explanation_eq hne] at h
  cases front with
  | nil => rfl
  | cons c front =>
    have hrest := (List.cons.inj h).2
    refine absurd ⟨front, tail, ?_⟩ (unbroken_heading_listing causes)
    rw [hrest, List.append_assoc]
    rfl

/-- The layout of reports loses nothing, whatever newlines, empty texts and empty lines there are:
reports of as many causes are written alike only when they are the same.  What is written after the
outermost text of a report with a cause opens with two newlines and the heading, and no other two
newlines in it are adjacent. -/
theorem written_keeps_chain (report : Report) :
    (∀ report' : Report, report.causes.length = report'.causes.length →
        report.written = report'.written → report.chain = report'.chain) ∧
      (report.causes ≠ [] →
        ∃ explained, report.written = report.outermost ++ explained ∧
          "\n\nCaused by:".toList <+: explained ∧
          ∀ front tail, explained = front ++ '\n' :: '\n' :: tail → front = []) := by
  refine ⟨fun report' hlength h ↦ ?_, fun hne ↦ ?_⟩
  · rw [eq_of_written_eq hlength h]
  · refine ⟨explanation report.causes, rfl, ?_, fun front tail ↦ eq_nil_of_explanation_eq hne⟩
    rw [explanation_eq hne]
    exact ⟨listing report.causes, by simp⟩

/-- A single cause can imitate two. -/
example : written ⟨"a".toList, ["0: b\n1: c".toList]⟩ =
    written ⟨"a".toList, ["b".toList, "c".toList]⟩ := by
  decide

end Report

end ContainerLaunch
