import ContainerLaunch.Proofs.AsciiBytes
import ContainerLaunch.Proofs.Course
import ContainerLaunch.Proofs.Printable
import ContainerLaunch.Proofs.WaitStatuses

/-!
# The log of a launch

How many lines a launch adds to the journal, and which, depends on how the launch goes and on
nothing else.  The values in a line are quoted, so no line has a newline or any other control
character of its own, and what looks like a line is one that the launcher wrote.
-/

namespace ContainerLaunch.Log

open Text Journal Launch

/-! ## Bytes of lines -/

theorem newline_notMem_encode {text : Text} (h : Printable text) :
    Ascii.newline ∉ Utf8.encode text := by
  intro hbyte
  have hnewline : '\n' ∈ text := (Utf8.mem_encode_iff (by decide)).mp hbyte
  exact not_isControl_of_not_isUnprintable (h '\n' hnewline) (.inl (by decide))

/-- The lines as they are written, each with a newline at its end. -/
def written (lines : List Text) : Bytes :=
  lines.flatMap fun line ↦ Utf8.encode line ++ [Ascii.newline]

theorem written_append (lines lines' : List Text) :
    written (lines ++ lines') = written lines ++ written lines' :=
  List.flatMap_append

/-- Printable lines are what their bytes fall into at the newlines. -/
theorem splitOn_written {lines : List Text} (h : ∀ line ∈ lines, Printable line) :
    (written lines).splitOn Ascii.newline = lines.map Utf8.encode ++ [[]] := by
  induction lines with
  | nil => simp [written]
  | cons line lines ih =>
    have hline : Ascii.newline ∉ Utf8.encode line := newline_notMem_encode (h line (.head _))
    have hwritten : written (line :: lines) =
        Utf8.encode line ++ Ascii.newline :: written lines := by
      simp [written]
    rw [hwritten]
    calc
      _ = Utf8.encode line :: (written lines).splitOn Ascii.newline :=
        List.splitOn_append_cons_self_of_not_mem hline _
      _ = Utf8.encode line :: (lines.map Utf8.encode ++ [[]]) := by
        rw [ih fun next hnext ↦ h next (.tail _ hnext)]
      _ = _ := rfl

/-- Exactly these lines stand before and after the bytes of the child, and each of them is one
line, with no control characters in it. -/
structure Logged (before : List Text) (child : Bytes) (after : List Text) (bytes : Bytes) :
    Prop where
  bytes_eq : bytes = written before ++ child ++ written after
  splitOn_before : (written before).splitOn Ascii.newline = before.map Utf8.encode ++ [[]]
  splitOn_after : (written after).splitOn Ascii.newline = after.map Utf8.encode ++ [[]]
  not_isControl : ∀ line ∈ before ++ after, ∀ c ∈ line, ¬IsControl c

theorem Logged.of_printable {before after : List Text} {child bytes : Bytes}
    (hbefore : ∀ line ∈ before, Printable line) (hafter : ∀ line ∈ after, Printable line)
    (h : bytes = written before ++ child ++ written after) :
    Logged before child after bytes where
  bytes_eq := h
  splitOn_before := splitOn_written hbefore
  splitOn_after := splitOn_written hafter
  not_isControl line hline c hc := by
    rcases List.mem_append.mp hline with hline | hline
    · exact not_isControl_of_not_isUnprintable (hbefore line hline c hc)
    · exact not_isControl_of_not_isUnprintable (hafter line hline c hc)

/-! ## Lines of records -/

/-- What is kept of the records among some effects, line by line. -/
def loggedLines (verbosity : Verbosity) (effects : Effects) : List Text :=
  (effects.records.filterMap verbosity.kept).map (Record.line .plain)

theorem loggedLines_append (verbosity : Verbosity) (effects effects' : Effects) :
    loggedLines verbosity (effects ++ effects') =
      loggedLines verbosity effects ++ loggedLines verbosity effects' := by
  simp only [loggedLines, Effects.records, List.filterMap_append, List.map_append]

theorem loggedLines_of_records_eq_nil {verbosity : Verbosity} {effects : Effects}
    (h : effects.records = []) : loggedLines verbosity effects = [] := by
  rw [loggedLines, h]
  rfl

theorem printable_of_mem_loggedLines {verbosity : Verbosity} {effects : Effects} {line : Text}
    (h : line ∈ loggedLines verbosity effects) : Printable line := by
  obtain ⟨record, -, rfl⟩ := List.mem_map.mp h
  exact record.printable_line

theorem encode_entry (verbosity : Verbosity) (record : Record) :
    Utf8.encode (entry ⟨verbosity, .plain⟩ record) =
      written (loggedLines verbosity [.noted record]) := by
  have hnewline : Utf8.encodeChar '\n' = [Ascii.newline] := by decide
  have hrecords : Effects.records [.noted record] = [record] := rfl
  rw [entry, loggedLines, hrecords]
  cases hkept : verbosity.kept record with
  | none => simp [written, hkept, Utf8.encode]
  | some kept => simp [written, hkept, Utf8.encode, hnewline]

/-- An effect adds the line of its record, if it is one, and then what it puts there itself. -/
theorem stderr_effect (verbosity : Verbosity) (effect : Effect) :
    effect.stderr (some ⟨verbosity, .plain⟩) =
      written (loggedLines verbosity [effect]) ++ effect.unlogged := by
  cases effect with
  | noted record => exact congrArg (· ++ []) (encode_entry verbosity record)
  | printed | flushed | attempted | relayed | complained => rfl

/-- Nothing but records comes to standard error from these effects. -/
def Silent (effects : Effects) : Prop := ∀ effect ∈ effects, effect.unlogged = []

theorem Silent.append {effects effects' : Effects} (h : Silent effects) (h' : Silent effects') :
    Silent (effects ++ effects') :=
  List.forall_mem_append.mpr ⟨h, h'⟩

theorem silent_printed (bytes : Bytes) : Silent [.printed bytes] :=
  List.forall_mem_singleton.mpr rfl

theorem silent_attempted (command : Command) : Silent [.attempted command] :=
  List.forall_mem_singleton.mpr rfl

theorem stderr_of_silent (verbosity : Verbosity) {effects : Effects} (h : Silent effects) :
    effects.stderr (some ⟨verbosity, .plain⟩) = written (loggedLines verbosity effects) := by
  induction effects with
  | nil => rfl
  | cons effect effects ih =>
    have heffect : effect.unlogged = [] := h effect (.head _)
    have heffects := ih fun next hnext ↦ h next (.tail _ hnext)
    calc
      Effects.stderr (some ⟨verbosity, .plain⟩) (effect :: effects)
      _ = effect.stderr (some ⟨verbosity, .plain⟩) ++
            Effects.stderr (some ⟨verbosity, .plain⟩) effects := List.flatMap_cons
      _ = written (loggedLines verbosity [effect]) ++ written (loggedLines verbosity effects) := by
        rw [stderr_effect, heffect, List.append_nil, heffects]
      _ = written (loggedLines verbosity ([effect] ++ effects)) := by
        rw [← written_append, loggedLines_append]

theorem logged_of_silent {effects : Effects} {lines warned : List Text} (h : Silent effects)
    (hlines : loggedLines .everything effects = lines ∧
      loggedLines .warnings effects = warned) :
    Logged lines [] [] (effects.stderr (some ⟨.everything, .plain⟩)) ∧
      Logged warned [] [] (effects.stderr (some ⟨.warnings, .plain⟩)) := by
  have hlogged (verbosity : Verbosity) :
      Logged (loggedLines verbosity effects) [] []
        (effects.stderr (some ⟨verbosity, .plain⟩)) := by
    refine .of_printable (fun _ ↦ printable_of_mem_loggedLines) (by simp) ?_
    simp [stderr_of_silent verbosity h, written]
  obtain ⟨rfl, rfl⟩ := hlines
  exact ⟨hlogged .everything, hlogged .warnings⟩

/-- What a child writes comes after the lines before its end and before those after it. -/
theorem logged_relayed {before after : Effects} {lines lines' warned warned' : List Text}
    (child : Child) (hbefore : Silent before) (hafter : Silent after)
    (hlines : loggedLines .everything before = lines ∧ loggedLines .warnings before = warned)
    (hlines' : loggedLines .everything after = lines' ∧ loggedLines .warnings after = warned') :
    Logged lines child.stderr lines'
        (Effects.stderr (some ⟨.everything, .plain⟩) (before ++ .relayed child :: after)) ∧
      Logged warned child.stderr warned'
        (Effects.stderr (some ⟨.warnings, .plain⟩) (before ++ .relayed child :: after)) := by
  have hlogged (verbosity : Verbosity) :
      Logged (loggedLines verbosity before) child.stderr (loggedLines verbosity after)
        (Effects.stderr (some ⟨verbosity, .plain⟩) (before ++ .relayed child :: after)) := by
    refine .of_printable (fun _ ↦ printable_of_mem_loggedLines)
      (fun _ ↦ printable_of_mem_loggedLines) ?_
    rw [← stderr_of_silent verbosity hbefore, ← stderr_of_silent verbosity hafter]
    simp [Effects.stderr, Effect.stderr, Effect.log, Effect.unlogged]
  obtain ⟨⟨rfl, rfl⟩, rfl, rfl⟩ := And.intro hlines hlines'
  exact ⟨hlogged .everything, hlogged .warnings⟩

/-! ## The lines in full -/

/-- What a line says before its fields. -/
def heading (record : Record) : Text :=
  record.event.level.label ++ [' '] ++ (record.spans.flatMap fun span ↦ span.name ++ [':']) ++
    (if record.spans.isEmpty then [] else [' ']) ++ record.event.message

def field (name value : Text) : Text := [' '] ++ name ++ ['='] ++ value

theorem line_plain (record : Record) :
    record.line .plain =
      (record.event.fields ++ record.spans.map Span.field).foldl
        (fun text shown ↦ text ++ field shown.1 shown.2) (heading record) := by
  rw [List.foldl_append_eq_append]
  simp [Record.line, paint, writtenField, heading, field,
    List.flatMap_def, Function.comp_def]

def argumentsField (arguments : List Bytes) : Text :=
  " args=".toList ++ Shown.byteStrings arguments

def vectorField (command : Command) : Text :=
  " argv=".toList ++ Shown.byteStrings (command.program :: command.arguments)

def programField (command : Command) : Text :=
  " program=".toList ++ Quoted.write command.program

def unpackedLine (arguments : List Bytes) (request : Request) : Text :=
  "DEBUG execute_command:prepare_command: Unpacked invocation".toList ++
    (" invocation=".toList ++ request.shown) ++
    argumentsField arguments ++ argumentsField arguments

def preparedLine (arguments : List Bytes) (command : Command) : Text :=
  "DEBUG execute_command:prepare_command: Prepared container-exec command".toList ++
    vectorField command ++ argumentsField arguments ++ argumentsField arguments

def runningLine (arguments : List Bytes) (command : Command) : Text :=
  "DEBUG execute_command:run_inherited: Running command".toList ++
    vectorField command ++ argumentsField arguments ++ programField command

def succeededLine (arguments : List Bytes) (command : Command) : Text :=
  "DEBUG execute_command:run_inherited: Command completed successfully".toList ++
    argumentsField arguments ++ programField command

def exitedLine (arguments : List Bytes) (command : Command) (code : Nat) : Text :=
  " WARN execute_command:run_inherited: Command exited with status ".toList ++ decimal code ++
    argumentsField arguments ++ programField command

def finishedLine (arguments : List Bytes) (code : Nat) : Text :=
  "DEBUG execute_command: Launcher finished with exit code ".toList ++ decimal code ++
    argumentsField arguments

/-- All that a journal of warnings has to say of a child that failed. -/
def warningLine (code : Nat) : Text :=
  " WARN Command exited with status ".toList ++ decimal code

theorem loggedLines_preparation (arguments : List Bytes) (request : Request) (command : Command) :
    loggedLines .everything (preparation arguments request command) =
        [unpackedLine arguments request, preparedLine arguments command] ∧
      loggedLines .warnings (preparation arguments request command) = [] := by
  refine ⟨?_, rfl⟩
  change [Record.line .plain _, Record.line .plain _] = _
  rw [line_plain, line_plain]
  rfl

theorem loggedLines_opening (arguments : List Bytes) (command : Command) :
    loggedLines .everything (opening arguments command) =
        [runningLine arguments command] ∧
      loggedLines .warnings (opening arguments command) = [] := by
  refine ⟨?_, rfl⟩
  change [Record.line .plain _] = _
  rw [line_plain]
  rfl

theorem records_closing (arguments : List Bytes) (command : Command) (status : WaitStatus) :
    (closing arguments command status).records =
      [⟨[.executing arguments, .child command.program], verdict status⟩,
        ⟨[.executing arguments], .finished status.exitCode⟩] := rfl

theorem loggedLines_closing_of_succeeded (arguments : List Bytes) (command : Command)
    {status : WaitStatus} (h : status.succeeded = true) :
    loggedLines .everything (closing arguments command status) =
        [succeededLine arguments command, finishedLine arguments status.exitCode] ∧
      loggedLines .warnings (closing arguments command status) = [] := by
  rw [loggedLines, loggedLines, records_closing, verdict, if_pos h]
  refine ⟨?_, rfl⟩
  change [Record.line .plain _, Record.line .plain _] = _
  rw [line_plain, line_plain]
  rfl

theorem loggedLines_closing_of_failed (arguments : List Bytes) (command : Command)
    {status : WaitStatus} (h : ¬status.succeeded = true) :
    loggedLines .everything (closing arguments command status) =
        [exitedLine arguments command status.exitCode,
          finishedLine arguments status.exitCode] ∧
      loggedLines .warnings (closing arguments command status) =
        [warningLine status.exitCode] := by
  rw [loggedLines, loggedLines, records_closing, verdict, if_neg h]
  constructor
  · change [Record.line .plain _, Record.line .plain _] = _
    rw [line_plain, line_plain]
    rfl
  · change [Record.line .plain _] = _
    rw [line_plain]
    rfl

theorem silent_preparation (arguments : List Bytes) (request : Request) (command : Command) :
    Silent (preparation arguments request command) := by
  simp [Silent, preparation, Effect.unlogged]

theorem silent_opening (arguments : List Bytes) (command : Command) :
    Silent (opening arguments command) := by
  simp [Silent, opening, Effect.unlogged]

theorem silent_closing (arguments : List Bytes) (command : Command) (status : WaitStatus) :
    Silent (closing arguments command status) := by
  simp [Silent, closing, Effect.unlogged]

/-- The lines up to the announcement, taken or not. -/
theorem loggedLines_announced (arguments : List Bytes) (request : Request) (command : Command)
    {rest : Effects} (h : rest.records = []) :
    loggedLines .everything (preparation arguments request command ++ rest) =
        [unpackedLine arguments request, preparedLine arguments command] ∧
      loggedLines .warnings (preparation arguments request command ++ rest) = [] := by
  simp only [loggedLines_append, loggedLines_preparation, loggedLines_of_records_eq_nil h,
    List.append_nil, and_self]

/-- The lines up to the start of the command, attempted or not. -/
theorem loggedLines_attempted (arguments : List Bytes) (request : Request) (command : Command)
    {rest : Effects} (h : rest.records = []) :
    loggedLines .everything
          (preparation arguments request command ++ opening arguments command ++ rest) =
        [unpackedLine arguments request, preparedLine arguments command,
          runningLine arguments command] ∧
      loggedLines .warnings
          (preparation arguments request command ++ opening arguments command ++ rest) = [] := by
  simp only [loggedLines_append, loggedLines_preparation, loggedLines_opening,
    loggedLines_of_records_eq_nil h, List.append_nil, List.cons_append, List.nil_append, and_self]

/-! ## The log by outcome -/

/-- A launch adds exactly these lines, whatever the bytes of its arguments, its settings and its
host: nothing for too few arguments, and otherwise what its outcome tells. -/
theorem execute_log (host : Host) (settings : Settings) (stdin : Bytes)
    (arguments : List Bytes) :
    let launch := execute host settings stdin arguments
    let debugging := launch.effects.stderr (some ⟨.everything, .plain⟩)
    let warning := launch.effects.stderr (some ⟨.warnings, .plain⟩)
    if arguments.length < 4 then
      debugging = [] ∧ warning = []
    else
      ∃ request command, Request.unpack arguments = .ok request ∧
        (prepare settings arguments).outcome = .ok command ∧
        match launch.outcome with
        | .error (.preparing _) => False
        | .error (.announcing _) =>
          Logged [unpackedLine arguments request, preparedLine arguments command] [] []
              debugging ∧
            Logged [] [] [] warning
        | .error (.starting _) =>
          Logged [unpackedLine arguments request, preparedLine arguments command,
              runningLine arguments command] [] [] debugging ∧
            Logged [] [] [] warning
        | .ok code =>
          ∃ child, host.start command stdin = .ok child ∧ code = child.status.exitCode ∧
            if child.status.succeeded then
              Logged [unpackedLine arguments request, preparedLine arguments command,
                  runningLine arguments command] child.stderr
                  [succeededLine arguments command, finishedLine arguments 0] debugging ∧
                Logged [] child.stderr [] warning
            else
              Logged [unpackedLine arguments request, preparedLine arguments command,
                  runningLine arguments command] child.stderr
                  [exitedLine arguments command code, finishedLine arguments code] debugging ∧
                Logged [] child.stderr [warningLine code] warning := by
  intro launch debugging warning
  split
  next hshort =>
    have hlaunch : launch = _ := execute_of_short host settings stdin hshort
    simp only [debugging, warning, hlaunch]
    exact ⟨rfl, rfl⟩
  next hlong =>
    obtain ⟨request, command, hrequest, hprepare, hcourse⟩ :=
      exists_course host settings stdin (Nat.le_of_not_lt hlong)
    refine ⟨request, command, hrequest, hprepare, ?_⟩
    have hpreparation := silent_preparation arguments request command
    have hopening := hpreparation.append (silent_opening arguments command)
    subst debugging warning launch
    generalize execute host settings stdin arguments = launch at hcourse
    cases hcourse with
    | @unwritten cause taken houtput =>
      exact logged_of_silent
        (hpreparation.append (silent_printed ((announcement command).take taken)))
        (loggedLines_announced arguments request command rfl)
    | unflushed houtput =>
      exact logged_of_silent (hpreparation.append (silent_printed (announcement command)))
        (loggedLines_announced arguments request command rfl)
    | zeroByte houtput hzero =>
      have hlines := loggedLines_attempted arguments request command (rfl : Effects.records [] = [])
      rw [List.append_nil] at hlines
      exact logged_of_silent hopening hlines
    | refused houtput hzero hstart =>
      exact logged_of_silent (hopening.append (silent_attempted command))
        (loggedLines_attempted arguments request command rfl)
    | @ended child houtput hzero hstart =>
      refine ⟨child, hstart, rfl, ?_⟩
      have hbefore := hopening.append (silent_attempted command)
      have hafter := silent_closing arguments command child.status
      split
      next hsucceeded =>
        have hlines := loggedLines_closing_of_succeeded arguments command hsucceeded
        rw [WaitStatus.exitCode_of_succeeded hsucceeded] at hlines
        exact logged_relayed child hbefore hafter
          (loggedLines_attempted arguments request command rfl) hlines
      next hfailed =>
        exact logged_relayed child hbefore hafter
          (loggedLines_attempted arguments request command rfl)
          (loggedLines_closing_of_failed arguments command hfailed)

end ContainerLaunch.Log
