import ContainerLaunch.Report

/-!
# Reading reports

A cause that is set in can be read back from the report: it goes on as long as every newline is
followed by the blanks it was set in by, and leaving those out gives its text.
-/

namespace ContainerLaunch.Report

variable {width : Nat} {rest : Text}

theorem unindent_blanks (width skipped : Nat) (rest : Text) :
    unindent width skipped (blanks skipped ++ rest) = unindent width 0 rest := by
  induction skipped with
  | zero => rfl
  | succ skipped ih => exact ih

theorem indent_cons (width : Nat) (c : Char) (text : Text) :
    indent width (c :: text) =
      (if c = '\n' then c :: blanks width else [c]) ++ indent width text :=
  List.flatMap_cons

theorem unindent_indent (width : Nat) (text : Text) :
    unindent width 0 (indent width text) = text := by
  induction text with
  | nil => rfl
  | cons c text ih =>
    rw [indent_cons]
    by_cases hnewline : c = '\n'
    · rw [if_pos hnewline, List.cons_append, unindent, if_pos hnewline, unindent_blanks, ih]
    · rw [if_neg hnewline, List.singleton_append, unindent, if_neg hnewline, ih]

/-- What a text begins with, up to the first newline that fewer than `width` blanks follow. -/
def block (width : Nat) : Text → Text
  | [] => []
  | c :: rest =>
    if c = '\n' ∧ ¬blanks width <+: rest then [] else c :: block width rest

theorem block_blanks (width : Nat) (count : Nat) (rest : Text) :
    block width (blanks count ++ rest) = blanks count ++ block width rest := by
  induction count with
  | zero => rfl
  | succ count ih => exact congrArg (' ' :: ·) ih

theorem block_newline_cons (h : ¬blanks width <+: rest) : block width ('\n' :: rest) = [] :=
  if_pos ⟨rfl, h⟩

/-- A text that is set in ends where nothing that follows it belongs to its block. -/
theorem block_indent_append {tail : Text} (h : block width tail = []) (text : Text) :
    block width (indent width text ++ tail) = indent width text := by
  induction text with
  | nil => exact h
  | cons c text ih =>
    rw [indent_cons, List.append_assoc]
    by_cases hnewline : c = '\n'
    · have hfollowed : blanks width <+: blanks width ++ (indent width text ++ tail) :=
        List.prefix_append _ _
      rw [if_pos hnewline, List.cons_append, block, if_neg fun hcut ↦ hcut.2 hfollowed,
        block_blanks, ih, List.cons_append]
    · rw [if_neg hnewline, List.singleton_append, block, if_neg fun hcut ↦ hnewline hcut.1, ih,
        List.singleton_append]

end ContainerLaunch.Report
