import ContainerLaunch.Proofs.FileTrees
import ContainerLaunch.Proofs.Plans
import ContainerLaunch.Proofs.Tools
import ContainerLaunch.Rehearsal.Host

/-!
# Rehearsed launches

A rehearsal answers for any command: it is refused with one of a few errors of the system, or its
child comes to an end, and a child that is no shell ends with a code that tells success, nothing
found, or trouble.  So a rehearsed launch fails only where a real one could.  What is launched by
the name of the tool that echoes comes back on standard output, after the announcement.
-/

namespace ContainerLaunch

namespace Rehearsal

variable {command : Command} {stdin : Bytes} {tool : Tool} {arguments : List Bytes} {child : Child}

/-! ## The host -/

theorem final_seen (course : Except Shell.Stop Shell.Ended × Shell.State) :
    (Shell.seen course).status.Final :=
  (Shell.Run.endOf course.1).property

/-- Whatever a shell is asked for, it comes to an end; nothing leaves it in the middle. -/
theorem final_shell (program : Bytes) (arguments : List Bytes) (stdin : Bytes) :
    (shell program arguments stdin).status.Final := by
  unfold shell
  exact final_seen _

theorem final_carryOut (tool : Tool) (command : Command) (stdin : Bytes) :
    (carryOut tool command stdin).status.Final := by
  unfold carryOut
  dsimp only
  split
  next performance _ => exact final_child performance
  next => exact final_shell _ _ _

theorem exitCode_carryOut_le (h : tool ≠ .shell) :
    (carryOut tool command stdin).status.exitCode ≤ 2 := by
  obtain ⟨performance, hperform⟩ :=
    exists_perform_eq_some h (firstScene command.program stdin) command.arguments
  rw [carryOut_of_perform hperform, exitCode_child hperform]
  exact code_le_of_perform hperform

/-- The errors that a start can be refused with. -/
def startErrors : List SystemError := .listTooLong :: FileTree.programErrors

theorem failsWith_start (command : Command) (stdin : Bytes) :
    FailsWith startErrors (start command stdin) := by
  have hlocate := (FileTree.failsWith_locate .standard command.program).mono
    (List.subset_cons_self .listTooLong _)
  refine hlocate.bind fun tool ↦ ?_
  split
  next => exact failsWith_error List.mem_cons_self
  next => exact failsWith_ok _

theorem start_of_locate (htool : FileTree.standard.locate command.program = .ok tool)
    (stdin : Bytes) :
    start command stdin =
      if command.vector.any (·.length ≥ longestArgument) then .error .listTooLong
      else .ok (carryOut tool command stdin) := by
  rw [start, htool]
  rfl

/-- A start comes to what a tool that has been found does. -/
theorem exists_of_start_eq_ok (h : start command stdin = .ok child) :
    ∃ tool, FileTree.standard.locate command.program = .ok tool ∧
      child = carryOut tool command stdin := by
  cases htool : FileTree.standard.locate command.program with
  | error cause =>
    rw [start, htool] at h
    cases h
  | ok tool =>
    rw [start_of_locate htool] at h
    split at h
    next => cases h
    next => exact ⟨tool, rfl, (Except.ok.inj h).symm⟩

theorem start_eq_ok (htool : FileTree.standard.locate command.program = .ok tool)
    (hshort : ∀ part ∈ command.vector, part.length < longestArgument) (stdin : Bytes) :
    start command stdin = .ok (carryOut tool command stdin) := by
  rw [start_of_locate htool, if_neg]
  simpa using hshort

/-! ## Launches -/

open Launch

variable {settings : Settings} {request : Request}

/-- A rehearsed launch with enough arguments comes to its start.  There it fails for a zero byte in
the command or for one of the errors of a rehearsed start; otherwise the tool is carried out, its
child has ended, and if it is no shell its code is two at the most. -/
theorem execute_rehearsed (settings : Settings) (stdin : Bytes)
    (h : Request.fewest ≤ arguments.length) :
    let launch := execute (host .accepts) settings stdin arguments
    ∃ command, (prepare settings arguments).outcome = .ok command ∧
      ((∃ cause ∈ SystemError.zeroByte :: startErrors,
          launch.outcome = .error (.starting (.startRefused command.line cause))) ∨
        ∃ tool, FileTree.standard.locate command.program = .ok tool ∧
          let child := carryOut tool command stdin
          launch.outcome = .ok child.status.exitCode ∧ child.status.Final ∧
            (tool ≠ .shell → child.status.exitCode ≤ 2)) := by
  intro launch
  obtain ⟨request, command, -, hprepare, hcourse⟩ := exists_course (host .accepts) settings stdin h
  refine ⟨command, hprepare, ?_⟩
  subst launch
  generalize execute (host .accepts) settings stdin arguments = launch at hcourse
  cases hcourse with
  | unwritten houtput | unflushed houtput => cases houtput
  | zeroByte => exact .inl ⟨.zeroByte, List.mem_cons_self, rfl⟩
  | @refused cause _ _ hstart =>
    exact .inl ⟨cause, List.mem_cons_of_mem _ (failsWith_start command stdin cause hstart), rfl⟩
  | ended _ _ hstart =>
    obtain ⟨tool, htool, rfl⟩ := exists_of_start_eq_ok hstart
    exact .inr ⟨tool, htool, rfl, final_carryOut tool command stdin, exitCode_carryOut_le⟩

/-- The tool that echoes leaves the announced line to itself, and after it come the arguments of the
command as they are. -/
theorem execute_of_locate_echo (stdin : Bytes) (hrequest : Request.unpack arguments = .ok request)
    (hzero : (request.command settings).holdsZero = false)
    (htool : FileTree.standard.locate request.tool = .ok .echo)
    (hshort : ∀ part ∈ (request.command settings).vector, part.length < longestArgument) :
    let launch := execute (host .accepts) settings stdin arguments
    let command := request.command settings
    launch.outcome = .ok 0 ∧
      launch.effects.stdout = Utf8.encode command.line ++ [Ascii.newline] ++
        ([Ascii.blank].intercalate command.arguments ++ [Ascii.newline]) := by
  intro launch command
  have hstart : (host .accepts).start command stdin = .ok (carryOut .echo command stdin) :=
    start_eq_ok htool hshort stdin
  have hchild : carryOut .echo command stdin = ⟨echo command.arguments, [], .exited 0⟩ :=
    congrArg (fun stdout ↦ (⟨stdout, [], .exited 0⟩ : Child)) (List.append_nil _)
  have hecho : echo command.arguments =
      [Ascii.blank].intercalate command.arguments ++ [Ascii.newline] :=
    echo_of_head fun first hfirst ↦ by
      obtain rfl := Option.some.inj hfirst
      decide
  have hcourse := execute_course (host .accepts) settings stdin hrequest
  subst launch
  generalize execute (host .accepts) settings stdin arguments = launch at hcourse
  cases hcourse with
  | unwritten houtput | unflushed houtput => cases houtput
  | zeroByte _ hholds => exact absurd hholds (Bool.eq_false_iff.mp hzero)
  | refused _ _ hrefused => exact absurd (hstart.symm.trans hrefused) nofun
  | ended _ _ hended =>
    obtain rfl := Except.ok.inj (hstart.symm.trans hended)
    have hcode : (WaitStatus.exited 0).exitCode = 0 := by decide
    rw [hchild]
    refine ⟨congrArg Except.ok hcode, ?_⟩
    rw [stdout_ended, hecho]

/-- By its name alone the tool is found, and it has the forwarded arguments last. -/
example (stdin : Bytes) :
    (execute (host .accepts) {} stdin (["a:1", "b", "h", "echo", "c"].map Utf8.ofString)).outcome =
      .ok 0 :=
  (execute_of_locate_echo stdin rfl (by decide)
    (FileTree.locate_tools ("echo", .echo) (by decide)) (by decide)).1

end Rehearsal

end ContainerLaunch
