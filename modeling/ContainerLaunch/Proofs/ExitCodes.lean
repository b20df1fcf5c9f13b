import ContainerLaunch.Proofs.Runs
import ContainerLaunch.Proofs.WaitStatuses

/-!
# Exit codes

A run ends with zero in one case only: its arguments are accepted and are enough for a command, the
command is announced and started, and the child exits with zero.  Every other end has a code of its
own above zero, and none is too large to be passed on whole.  A warning is written to the journal
for exactly the children whose code is not zero.
-/

namespace ContainerLaunch

/-! ## Warnings -/

namespace Journal

/-- The bytes that the line of a warning begins with. -/
def warningMark (style : Style) : Bytes := Utf8.encode (paint style 33 " WARN".toList)

theorem exists_line_eq (style : Style) (record : Record) :
    ∃ rest, record.line style =
      paint style record.event.level.colour record.event.level.label ++ rest := by
  unfold Record.line
  simp only [List.append_assoc]
  exact ⟨_, rfl⟩

/-- A warning is kept by every journal; only its activities may be left out. -/
theorem entry_of_warning (verbosity : Verbosity) (style : Style) {record : Record}
    (h : record.event.level = .warning) :
    entry ⟨verbosity, style⟩ record =
      Record.line style ⟨if verbosity = .everything then record.spans else [], record.event⟩ ++
        ['\n'] := by
  cases verbosity with
  | everything => rfl
  | warnings => simp [entry, Verbosity.kept, h]

/-- No other entry of a journal begins like a warning. -/
theorem isPrefixOf_warningMark_entry (journal : Journal) (record : Record) :
    (warningMark journal.style).isPrefixOf (Utf8.encode (journal.entry record)) =
      decide (record.event.level = .warning) := by
  obtain ⟨verbosity, style⟩ := journal
  have hmark (level : Level) (rest : Bytes) :
      (warningMark style).isPrefixOf (Utf8.encode (paint style level.colour level.label) ++ rest) =
        decide (level = .warning) := by
    cases level <;> cases style <;> rfl
  have hline (kept : Record) :
      (warningMark style).isPrefixOf (Utf8.encode (kept.line style ++ ['\n'])) =
        decide (kept.event.level = .warning) := by
    obtain ⟨rest, hrest⟩ := exists_line_eq style kept
    rw [hrest, List.append_assoc, Utf8.encode, List.flatMap_append]
    exact hmark kept.event.level _
  by_cases hlevel : record.event.level = .warning
  · rw [entry_of_warning verbosity style hlevel]
    exact hline _
  · cases verbosity with
    | everything => exact hline record
    | warnings =>
      have hentry : entry ⟨.warnings, style⟩ record = [] := by
        simp [entry, Verbosity.kept, hlevel]
      rw [hentry, decide_eq_false hlevel]
      cases style <;> rfl

end Journal

namespace Effects

theorem filter_entries (journal : Journal) (effects : Effects) :
    (effects.entries (some journal)).filter (Journal.warningMark journal.style).isPrefixOf =
      (effects.records.filter (·.event.level = .warning)).map
        fun record ↦ Utf8.encode (journal.entry record) := by
  rw [entries_some, List.filter_map]
  congr 1
  apply List.filter_congr
  intro record _
  exact Journal.isPrefixOf_warningMark_entry journal record

end Effects

namespace Launch

variable {host : Host} {stdin : Bytes} {arguments : List Bytes} {request : Request}
  {command : Command}

/-- The one warning of a launch, about a child that did not succeed. -/
theorem filter_records_of_ended (child : Child) :
    (Effects.records (preparation arguments request command ++ opening arguments command ++
        [.attempted command] ++ .relayed child :: closing arguments command child.status)).filter
          (·.event.level = .warning) =
      if child.status.succeeded then []
      else [⟨[.executing arguments, .child command.program], .exited child.status.exitCode⟩] := by
  have hrecords : Effects.records (preparation arguments request command ++
      opening arguments command ++ [.attempted command] ++
        .relayed child :: closing arguments command child.status) =
      [⟨[.executing arguments, .preparing arguments], .unpacked request⟩,
        ⟨[.executing arguments, .preparing arguments], .prepared command⟩,
        ⟨[.executing arguments, .child command.program], .running command⟩,
        ⟨[.executing arguments, .child command.program], verdict child.status⟩,
        ⟨[.executing arguments], .finished child.status.exitCode⟩] := rfl
  rw [hrecords, verdict]
  split <;> rfl

end Launch

namespace Program

open WaitStatus

/-- The entries of a run that warn of something. -/
def Run.warnings (run : Run) (style : Journal.Style) : List Bytes :=
  (run.effects.entries run.journal).filter (Journal.warningMark style).isPrefixOf

/-- The child is started: no zero byte keeps the command from it, and the host does not refuse. -/
def Starts (host : Host) (stdin : Bytes) (command : Command) (child : Child) : Prop :=
  (¬∃ part ∈ command.vector, Ascii.zero ∈ part) ∧ host.start command stdin = .ok child

/-- The run ends as its child did: with the code of the child, or with that of the signal which
killed it.  Where the child has ended a warning is written just when the code is not zero, and it
tells the code. -/
structure Mirrors (run : Run) (settings : Settings) (style : Journal.Style)
    (arguments : List Bytes) (command : Command) (child : Child) : Prop where
  code_eq : run.code = child.status.exitCode
  code_of_hasExited : ∀ code, child.status.HasExited code → run.code = code
  code_of_wasKilled : ∀ signal, child.status.WasKilled signal → run.code = 128 + signal
  warnings_eq : child.status.Final → run.warnings style =
    if run.code = 0 then []
    else
      let spans : List Journal.Span :=
        if settings.debug then [.executing arguments, .child command.program] else []
      [Utf8.encode (Journal.Record.line style ⟨spans, .exited run.code⟩ ++ ['\n'])]
  stderr_woven : Effects.Woven (run.effects.entries run.journal) run.effects.unlogged run.stderr

variable {host : Host} {program : Program} {settings : Settings} {style : Journal.Style}
  {stdin : Bytes} {arguments : List Bytes} {request : Request} {command : Command} {child : Child}
  {launch : Transcript Fault Nat}

theorem launched_code_of_not_starts (h : Launch.Course host stdin arguments request command launch)
    (hnot : ¬(host.output = .accepts ∧ ∃ child, Starts host stdin command child)) :
    (launched launch).2 = 1 := by
  cases h with
  | unwritten | unflushed | zeroByte | refused => rfl
  | ended houtput hzero hstart =>
    exact absurd ⟨houtput, _, Launch.holdsZero_eq_false_iff.mp hzero, hstart⟩ hnot

/-- The warnings among the entries of a launch whose child has ended. -/
theorem warnings_of_ended (debug : Bool) (style : Journal.Style) (hfinal : child.status.Final) :
    (Effects.entries (some ⟨.ofDebug debug, style⟩)
        (Launch.preparation arguments request command ++ Launch.opening arguments command ++
          [.attempted command] ++
            .relayed child :: Launch.closing arguments command child.status)).filter
              (Journal.warningMark style).isPrefixOf =
      if child.status.exitCode = 0 then []
      else
        let spans : List Journal.Span :=
          if debug then [.executing arguments, .child command.program] else []
        [Utf8.encode (Journal.Record.line style ⟨spans, .exited child.status.exitCode⟩ ++
          ['\n'])] := by
  refine (Effects.filter_entries ⟨.ofDebug debug, style⟩ _).trans ?_
  rw [Launch.filter_records_of_ended]
  simp only [hfinal.succeeded_iff]
  split
  next => rfl
  next =>
    rw [List.map_singleton, Journal.entry_of_warning _ style rfl]
    cases debug <;> rfl

theorem mirrors_of_starts (settings : Settings) (style : Journal.Style)
    (h : Launch.Course host stdin arguments request command launch)
    (houtput : host.output = .accepts) (hstarts : Starts host stdin command child) :
    Mirrors ⟨some ⟨.ofDebug settings.debug, style⟩, (launched launch).1, (launched launch).2⟩
      settings style arguments command child := by
  have hchild : host.start command stdin = .ok child := hstarts.2
  cases h with
  | unwritten hrefuses | unflushed hrefuses => rw [houtput] at hrefuses; cases hrefuses
  | zeroByte _ hzero => exact absurd (Launch.holdsZero_iff.mp hzero) hstarts.1
  | refused _ _ hstart => rw [hchild] at hstart; cases hstart
  | @ended ended _ _ hstart =>
    obtain rfl : child = ended := Except.ok.inj (hchild.symm.trans hstart)
    refine ⟨rfl, fun code ↦ exitCode_of_hasExited, fun signal ↦ exitCode_of_wasKilled, ?_,
      Effects.woven_stderr _ _⟩
    exact fun hfinal ↦ warnings_of_ended settings.debug style hfinal

/-- Which stage decides the code of a run, and what the code is then. -/
def CodeTells (host : Host) (program : Program) (run : Run) : Prop :=
  let settings := Settings.ofEnvironment program.environment
  match Intake.accept program.argv with
  | .error _ => run.code = 2
  | .ok arguments =>
    if arguments.length < 4 then run.code = 1
    else
      ∃ command, (Launch.prepare settings arguments).outcome = .ok command ∧
        (¬(host.output = .accepts ∧ ∃ child, Starts host program.stdin command child) →
          run.code = 1) ∧
        ∀ child, host.output = .accepts → Starts host program.stdin command child →
          Mirrors run settings program.style arguments command child

theorem codeTells_run (host : Host) (program : Program) :
    CodeTells host program (program.run host) := by
  unfold CodeTells
  cases haccept : Intake.accept program.argv with
  | error refusal =>
    rw [run_of_refused host haccept]
    rfl
  | ok arguments =>
    rw [run_of_accepted host haccept]
    dsimp only
    split
    next hshort =>
      rw [Launch.execute_of_short host _ program.stdin hshort]
      rfl
    next hlong =>
      obtain ⟨request, command, -, hprepare, hcourse⟩ :=
        Launch.exists_course host (Settings.ofEnvironment program.environment) program.stdin
          (Nat.le_of_not_lt hlong)
      exact ⟨command, hprepare, launched_code_of_not_starts hcourse,
        fun child ↦ mirrors_of_starts _ program.style hcourse⟩

/-- Every stage of the run succeeds up to the start of this child. -/
structure Reaches (host : Host) (program : Program) (arguments : List Bytes) (command : Command)
    (child : Child) : Prop where
  accepted : Intake.accept program.argv = .ok arguments
  fewest_le : 4 ≤ arguments.length
  prepared :
    (Launch.prepare (Settings.ofEnvironment program.environment) arguments).outcome = .ok command
  announced : host.output = .accepts
  starts : Starts host program.stdin command child

namespace CodeTells

variable {run : Run}

theorem code_eq_of_reaches (h : CodeTells host program run)
    (hreaches : Reaches host program arguments command child) :
    run.code = child.status.exitCode := by
  simp only [CodeTells, hreaches.accepted, if_neg (Nat.not_lt.mpr hreaches.fewest_le)] at h
  obtain ⟨prepared, hprepared, -, hmirrors⟩ := h
  obtain rfl : prepared = command := Except.ok.inj (hprepared.symm.trans hreaches.prepared)
  exact (hmirrors child hreaches.announced hreaches.starts).code_eq

/-- A run that comes to no child has the code of the stage that failed. -/
theorem code_eq_or_reaches (h : CodeTells host program run) :
    (run.code = 1 ∨ run.code = 2) ∨
      ∃ arguments command child, Reaches host program arguments command child := by
  unfold CodeTells at h
  cases haccept : Intake.accept program.argv with
  | error refusal =>
    simp only [haccept] at h
    exact .inl (.inr h)
  | ok arguments =>
    simp only [haccept] at h
    split at h
    next => exact .inl (.inl h)
    next hlong =>
      obtain ⟨command, hprepare, hother, -⟩ := h
      by_cases hended : host.output = .accepts ∧ ∃ child, Starts host program.stdin command child
      · obtain ⟨houtput, child, hstarts⟩ := hended
        exact .inr ⟨arguments, command, child,
          ⟨haccept, Nat.le_of_not_lt hlong, hprepare, houtput, hstarts⟩⟩
      · exact .inl (.inl (hother hended))

theorem code_le (h : CodeTells host program run) : run.code ≤ 255 := by
  rcases h.code_eq_or_reaches with hfailed | ⟨arguments, command, child, hreaches⟩
  · omega
  · rw [h.code_eq_of_reaches hreaches]
    exact child.status.exitCode_le

theorem code_eq_zero_iff (h : CodeTells host program run) :
    run.code = 0 ↔ ∃ arguments command child,
      Reaches host program arguments command child ∧ child.status.HasExited 0 := by
  constructor
  · intro hzero
    rcases h.code_eq_or_reaches with hfailed | ⟨arguments, command, child, hreaches⟩
    · omega
    · rw [h.code_eq_of_reaches hreaches] at hzero
      exact ⟨arguments, command, child, hreaches, exitCode_eq_zero_iff.mp hzero⟩
  · rintro ⟨arguments, command, child, hreaches, hexited⟩
    rw [h.code_eq_of_reaches hreaches, exitCode_of_hasExited hexited]

end CodeTells

/-- The exit code of a run tells how it went, whatever the arguments, the environment and the host
are.  The code of a child is one byte and is zero only for an exit with zero.  So is the code of a
run, and it is zero only when every stage succeeded and the child exited with zero.  Every other
end has the code of its stage, and a child that has ended is warned of where its code is not
zero. -/
theorem run_code_truthful (host : Host) (program : Program) :
    let run := program.run host
    (∀ status : WaitStatus, status.exitCode ≤ 255 ∧
      status.exitCode % 0x100 = status.exitCode ∧
      (status.exitCode = 0 ↔ status.HasExited 0)) ∧
    run.code ≤ 255 ∧
    (run.code = 0 ↔ ∃ arguments command child,
      Reaches host program arguments command child ∧ child.status.HasExited 0) ∧
    CodeTells host program run := by
  intro run
  have htells : CodeTells host program run := codeTells_run host program
  refine ⟨fun status ↦ ⟨status.exitCode_le, ?_, exitCode_eq_zero_iff⟩, ?_, ?_, htells⟩
  · exact Nat.mod_eq_of_lt (Nat.lt_succ_of_le status.exitCode_le)
  · exact htells.code_le
  · exact htells.code_eq_zero_iff

end Program

end ContainerLaunch
