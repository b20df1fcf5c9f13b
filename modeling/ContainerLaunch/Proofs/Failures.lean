import ContainerLaunch.Failure
import ContainerLaunch.Proofs.Explanations

/-!
# Failures and their reports

A failure is read from its message and from the texts of its cause.  A report by itself leaves one
thing open: a cause that came from nothing may have the words of one that came from others.  Within
a context it leaves nothing open, since there the first of several causes is the failure itself, and
its message begins with no number.
-/

namespace ContainerLaunch.Failure

open Report

variable {failure failure' : Failure}

/-- The two failures are of the same kind, with the same values, and have the same words for what
caused them and for what that came from. -/
def Alike : Failure → Failure → Prop
  | tooFewArguments found required, tooFewArguments found' required' =>
    found = found' ∧ required = required'
  | startRefused line cause, startRefused line' cause' =>
    line = line' ∧ cause.message = cause'.message ∧ cause.sources = cause'.sources
  | noLog reason, noLog reason' => reason = reason'
  | _, _ => False

/-- Two starts of the same line were refused, and one cause has the words of the other and of all
that came from in turn. -/
def Imitates : Failure → Failure → Prop
  | startRefused line cause, startRefused line' cause' =>
    line = line' ∧ Merges cause.texts cause'.texts
  | _, _ => False

/-- The first letter of a message tells the kind of the failure. -/
def initial : Failure → Char
  | tooFewArguments _ _ => 'I'
  | startRefused _ _ => 'P'
  | noLog _ => 'L'

theorem head?_message (failure : Failure) : failure.message.head? = some failure.initial := by
  cases failure <;> rfl

theorem initial_eq_of_message_eq (h : failure.message = failure'.message) :
    failure.initial = failure'.initial := by
  have hhead := congrArg List.head? h
  rw [head?_message, head?_message] at hhead
  exact Option.some.inj hhead

theorem message_startRefused (line : Text) (cause : Cause) :
    message (startRefused line cause) =
      "Process error: failed to spawn `".toList ++ line ++ "`".toList := rfl

theorem message_noLog (reason : Text) :
    message (noLog reason) = "Logging error: ".toList ++ reason := rfl

/-- The first of the two numbers ends at the blank after it. -/
theorem message_tooFewArguments (found required : Nat) :
    message (tooFewArguments found required) =
      "Insufficient arguments: expected at least ".toList ++ (Text.decimal required ++ ' ' ::
        ("(<adapter-host> [args...] <hostname> <exe-path> <container-id>), got ".toList ++
          Text.decimal found)) := by
  have hmessage : message (tooFewArguments found required) =
      "Insufficient arguments: expected at least ".toList ++ Text.decimal required ++
        " (<adapter-host> [args...] <hostname> <exe-path> <container-id>), got ".toList ++
        Text.decimal found := rfl
  have hbetween : " (<adapter-host> [args...] <hostname> <exe-path> <container-id>), got ".toList =
      ' ' :: "(<adapter-host> [args...] <hostname> <exe-path> <container-id>), got ".toList := by
    decide
  rw [hmessage, hbetween, List.append_assoc, List.append_assoc, List.cons_append]

theorem message_tooFewArguments_inj {found found' required required' : Nat}
    (h : message (tooFewArguments found required) = message (tooFewArguments found' required')) :
    found = found' ∧ required = required' := by
  rw [message_tooFewArguments, message_tooFewArguments] at h
  have hnumbers := List.append_cancel_left h
  have hsplit := congrArg (List.splitOn ' ') hnumbers
  rw [List.splitOn_append_cons_self_of_not_mem (Text.notMem_decimal (by decide) required),
    List.splitOn_append_cons_self_of_not_mem (Text.notMem_decimal (by decide) required')] at hsplit
  obtain rfl := Text.decimal_injective (List.cons.inj hsplit).1
  have hfound := List.append_cancel_left (List.cons.inj (List.append_cancel_left hnumbers)).2
  exact ⟨Text.decimal_injective hfound, rfl⟩

theorem report_startRefused (line : Text) (cause : Cause) :
    report (startRefused line cause) = ⟨message (startRefused line cause), cause.texts⟩ :=
  congrArg (Report.mk _) (List.append_nil cause.texts)

/-- A report has all that makes failures alike, and nothing else. -/
theorem alike_iff : Alike failure failure' ↔ failure.report = failure'.report := by
  cases failure <;> cases failure'
  case startRefused.startRefused line cause line' cause' =>
    rw [report_startRefused, report_startRefused, Report.mk.injEq, message_startRefused,
      message_startRefused, List.append_left_inj, List.append_right_inj, Cause.texts, Cause.texts,
      List.cons.injEq]
    rfl
  case tooFewArguments.tooFewArguments found required found' required' =>
    refine ⟨?_, fun h ↦ message_tooFewArguments_inj (Report.mk.inj h).1⟩
    rintro ⟨rfl, rfl⟩
    rfl
  case noLog.noLog reason reason' =>
    refine ⟨congrArg fun reason ↦ report (noLog reason), fun h ↦ ?_⟩
    have hmessage := (Report.mk.inj h).1
    rwa [message_noLog, message_noLog, List.append_right_inj] at hmessage
  -- failures of two kinds have different messages
  all_goals
    refine ⟨False.elim, fun h ↦ absurd (initial_eq_of_message_eq (Report.mk.inj h).1) ?_⟩
    simp [initial]

/-! ## Reading a failure -/

theorem head?_written (failure : Failure) :
    failure.report.written.head? = some failure.initial := by
  have hmessage : failure.report.outermost = failure.message := rfl
  rw [Report.written, List.head?_append, hmessage, head?_message, Option.some_or]

theorem written_startRefused_eq_iff {line line' : Text} {cause cause' : Cause} :
    (report (startRefused line cause)).written = (report (startRefused line' cause')).written ↔
      line = line' ∧ (cause.texts = cause'.texts ∨ Merges cause.texts cause'.texts ∨
        Merges cause'.texts cause.texts) := by
  have hne (cause : Cause) : cause.texts ≠ [] := List.cons_ne_nil _ _
  rw [report_startRefused, report_startRefused, written_eq_written_iff (hne cause) (hne cause'),
    listing_eq_iff, message_startRefused, message_startRefused, List.append_left_inj,
    List.append_right_inj]

theorem Imitates.written_eq (h : Imitates failure failure') :
    failure.report.written = failure'.report.written := by
  cases failure <;> cases failure'
  case startRefused.startRefused line cause line' cause' =>
    exact written_startRefused_eq_iff.mpr ⟨h.1, .inr (.inl h.2)⟩
  all_goals exact h.elim

theorem report_eq_or_imitates_of_written_eq
    (h : failure.report.written = failure'.report.written) :
    failure.report = failure'.report ∨ Imitates failure failure' ∨ Imitates failure' failure := by
  have hinitial : failure.initial = failure'.initial := by
    have hhead := congrArg List.head? h
    rw [head?_written, head?_written] at hhead
    exact Option.some.inj hhead
  cases failure <;> cases failure'
  case startRefused.startRefused line cause line' cause' =>
    obtain ⟨rfl, htexts | hmerges | hmerges⟩ := written_startRefused_eq_iff.mp h
    · rw [report_startRefused, report_startRefused, htexts]
      exact .inl rfl
    · exact .inr (.inl ⟨rfl, hmerges⟩)
    · exact .inr (.inr ⟨rfl, hmerges⟩)
  -- a report without causes is the message
  case tooFewArguments.tooFewArguments | noLog.noLog =>
    exact .inl (congrArg (Report.mk · []) (List.append_cancel_right h))
  all_goals exact absurd hinitial (by simp [initial])

theorem head?_merged (cause : Text) (causes : List Text) :
    (merged (cause :: causes)).head? = some '0' := by
  rw [merged, Text.join, List.zipIdx_cons, List.map_cons, intercalate_cons]
  rfl

/-- No message begins with the number of a cause. -/
theorem not_merges_chain (failure failure' : Failure) :
    ¬Merges failure.report.chain failure'.report.chain := by
  rintro ⟨-, -, hmerged⟩
  have hmessage : failure.message = merged failure'.report.chain := (List.cons.inj hmerged).1
  have hhead := congrArg List.head? hmessage
  rw [head?_message, Report.chain, head?_merged] at hhead
  cases failure <;> simp [initial] at hhead

/-- What the report of a failure tells, whatever newlines and imitated explanations its values hold.
Two failures have the same report only when they are alike, or when they are refusals of the same
line and the cause of one has the words of the other's cause and of all that that one came from.
Within contexts they have it only when they are alike, and the contexts are then the same too. -/
theorem written_report_unambiguous (failure failure' : Failure) :
    (failure.report.written = failure'.report.written ↔
        Alike failure failure' ∨ Imitates failure failure' ∨ Imitates failure' failure) ∧
      ∀ context context' : Text,
        (failure.report.within context).written = (failure'.report.within context').written ↔
          context = context' ∧ Alike failure failure' := by
  rw [alike_iff]
  refine ⟨⟨report_eq_or_imitates_of_written_eq, ?_⟩, fun context context' ↦ ?_⟩
  · rintro (hreport | himitates | himitates)
    · exact congrArg Report.written hreport
    · exact himitates.written_eq
    · exact himitates.written_eq.symm
  · have hne (failure : Failure) : failure.report.chain ≠ [] := List.cons_ne_nil _ _
    unfold Report.within
    rw [written_eq_written_iff (hne failure) (hne failure'), listing_eq_iff,
      or_iff_left (not_or_intro (not_merges_chain _ _) (not_merges_chain _ _))]
    refine and_congr_right fun _ ↦ ⟨fun h ↦ ?_, congrArg Report.chain⟩
    obtain ⟨houtermost, hcauses⟩ := List.cons.inj h
    exact congrArg₂ Report.mk houtermost hcauses

/-- A cause of two lines, and a cause that came from another: the reports are the same, and the
words of the causes are not. -/
theorem written_report_of_two_lines :
    let single : Failure := .startRefused "x".toList (SystemError.worded "0: b\n1: c".toList)
    let several : Failure := .startRefused "x".toList ⟨.worded "b".toList, ["c".toList]⟩
    single.report.written = several.report.written ∧
      single.cause?.map Cause.message = some "0: b\n1: c".toList ∧
      several.cause?.map Cause.message = some "b".toList ∧
      ¬Alike single several := by
  refine ⟨by decide, rfl, rfl, fun halike ↦ ?_⟩
  exact absurd halike.2.1 (by decide)

end ContainerLaunch.Failure
