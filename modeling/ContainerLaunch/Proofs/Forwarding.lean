import ContainerLaunch.Proofs.Collisions
import ContainerLaunch.Proofs.Runs

/-!
# Arguments in the command vector

Each argument has its place in the vector of the command, whatever its bytes are and whatever it
looks like.  The tool and the container stand there once and as they are, and so do the forwarded
arguments after the first, in their order.  Only the first may be rewritten, and only there can the
name of the host be seen.  The vector is what a run hands over when it attempts a start.
-/

namespace ContainerLaunch

open Address

/-- What `command` makes of `address :: others ++ [host, tool, container]`, where `full` stands for
the address. -/
structure Forwards (python launcher address : Bytes) (others : List Bytes)
    (host tool container full : Bytes) (command : Command) : Prop where
  full_of_bare : BarePort address → full = host ++ Ascii.colon :: address
  full_of_not_bare : ¬BarePort address → full = address
  vector_eq : command.vector =
    [tool, Utf8.ofString "exec", Utf8.ofString "-d", container, python, launcher, full] ++ others
  length_eq : command.vector.length = (address :: others ++ [host, tool, container]).length + 3
  /-- What is kept is there as often as it is given, besides the fixed parts and the address. -/
  count_eq : ∀ part, command.vector.count part =
    (tool :: container :: others).count part +
      [Utf8.ofString "exec", Utf8.ofString "-d", python, launcher, full].count part
  /-- The forwarded arguments after the first have moved by six places. -/
  getElem?_eq : ∀ n, command.vector[n + 7]? = others[n]?

namespace Request

variable (settings : Settings) (address : Bytes) (others : List Bytes) (host tool container : Bytes)

theorem vector_command :
    (command settings ⟨address :: others, host, tool, container⟩).vector =
      [tool, Utf8.ofString "exec", Utf8.ofString "-d", container, Utf8.encode settings.python,
        Utf8.encode settings.launcher, qualify host address] ++ others := rfl

theorem forwards_command :
    Forwards (Utf8.encode settings.python) (Utf8.encode settings.launcher) address others host tool
      container (qualify host address)
      (command settings ⟨address :: others, host, tool, container⟩) where
  full_of_bare := qualify_of_bare host
  full_of_not_bare := qualify_of_not_bare host
  vector_eq := vector_command settings address others host tool container
  length_eq := by simp [vector_command]
  count_eq part := by
    simp only [vector_command, List.cons_append, List.nil_append, List.count_cons, List.count_nil]
    omega
  getElem?_eq n := by rw [vector_command]; rfl

theorem vector_command_of_host (host' : Bytes) :
    (command settings ⟨address :: others, host', tool, container⟩).vector =
      (command settings ⟨address :: others, host, tool, container⟩).vector.set 6
        (qualify host' address) := rfl

/-- Only the place of the address can tell the name of the host, and only where the address is a
number alone. -/
theorem getElem?_vector_of_ne (host' : Bytes) {n : Nat}
    (h : (command settings ⟨address :: others, host', tool, container⟩).vector[n]? ≠
      (command settings ⟨address :: others, host, tool, container⟩).vector[n]?) :
    n = 6 ∧ BarePort address := by
  by_contra hother
  apply h
  by_cases hplace : n = 6
  · have hfull : ¬BarePort address := fun hbare ↦ hother ⟨hplace, hbare⟩
    rw [vector_command, vector_command, qualify_of_not_bare host' hfull,
      qualify_of_not_bare host hfull]
  · rw [vector_command_of_host settings address others host tool container host',
      List.getElem?_set_ne (Ne.symm hplace)]

end Request

namespace Launch

/-- The one command that is ever attempted is the prepared one, when nothing keeps it from that. -/
theorem Course.attempts_eq {host : Host} {stdin : Bytes} {arguments : List Bytes}
    {request : Request} {command : Command} {launch : Transcript Fault Nat}
    (h : Course host stdin arguments request command launch) :
    launch.effects.attempts =
      if host.output = .accepts ∧ ¬∃ part ∈ command.vector, Ascii.zero ∈ part then [command]
      else [] := by
  simp only [← holdsZero_eq_false_iff]
  cases h with
  | unwritten houtput | unflushed houtput =>
    rw [if_neg (by simp [houtput])]
    rfl
  | zeroByte houtput hzero =>
    rw [if_neg (by simp [hzero])]
    rfl
  | refused houtput hzero hstart | ended houtput hzero hstart =>
    rw [if_pos ⟨houtput, hzero⟩]
    rfl

end Launch

namespace Program

theorem attempts_launched (launch : Transcript Fault Nat) :
    (launched launch).1.attempts = launch.effects.attempts := by
  unfold launched
  split
  next => rfl
  next => exact Effects.attempts_complained _ _

end Program

namespace Launch

/-- Every argument comes to the command as it is and at its own place, but that the first may be
put behind the name of the host, which shows nowhere else.  A run on any machine that accepts the
same arguments attempts a start of this command and of no other. -/
theorem prepare_forwards (address : Bytes) (others : List Bytes) (host tool container : Bytes) :
    let arguments := address :: others ++ [host, tool, container]
    (∀ settings : Settings, ∃ command full,
      (prepare settings arguments).outcome = .ok command ∧
        Forwards (Utf8.encode settings.python) (Utf8.encode settings.launcher) address others host
          tool container full command ∧
        ∀ host', ∃ command',
          (prepare settings (address :: others ++ [host', tool, container])).outcome =
              .ok command' ∧
            ∀ n, command'.vector[n]? ≠ command.vector[n]? → n = 6 ∧ BarePort address) ∧
      ∀ (machine : Host) (program : Program), Intake.accept program.argv = .ok arguments →
        ∃ command full,
          Forwards (Utf8.ofString "python3") (Utf8.ofString "/debugpy/launcher") address others host
              tool container full command ∧
            (program.run machine).effects.attempts =
              if machine.output = .accepts ∧ ¬∃ part ∈ command.vector, Ascii.zero ∈ part then
                [command]
              else [] := by
  intro arguments
  have hprepare (settings : Settings) (host' : Bytes) :
      (prepare settings (address :: others ++ [host', tool, container])).outcome =
        .ok (Request.command settings ⟨address :: others, host', tool, container⟩) := by
    rw [prepare_of_unpack_ok settings (Request.unpack_append address others host' tool container)]
  constructor
  · intro settings
    refine ⟨_, _, hprepare settings host,
      Request.forwards_command settings address others host tool container, fun host' ↦
        ⟨_, hprepare settings host', fun n hn ↦ ?_⟩⟩
    exact Request.getElem?_vector_of_ne settings address others host tool container host' hn
  · intro machine program haccept
    let settings := Settings.ofEnvironment program.environment
    have hcourse := execute_course machine settings program.stdin
      (Request.unpack_append address others host tool container)
    refine ⟨_, _, Request.forwards_command settings address others host tool container, ?_⟩
    rw [Program.run_of_accepted machine haccept, Program.attempts_launched]
    exact hcourse.attempts_eq

/-- An option mark in the first place is dropped; after it come a number, nothing, another option
mark, a word of the command itself, a text with a blank and bytes that are no text. -/
theorem prepare_forwards_of_odd_arguments :
    let others : List Bytes :=
      [[], Intake.hyphens, Utf8.ofString "exec", Utf8.ofString "a b", [0xFF], Utf8.ofString "80"]
    let arguments := Utf8.ofString "80" :: others ++
      [Utf8.ofString "h:1", Utf8.ofString "tool", Utf8.ofString "exec"]
    let machine : Host := ⟨.accepts, fun _ _ ↦ .error .missing⟩
    let program : Program :=
      ⟨Utf8.ofString "launcher" :: Intake.hyphens :: arguments, none, [], .plain⟩
    Intake.accept program.argv = .ok arguments ∧
      ∃ command, (program.run machine).effects.attempts = [command] ∧
        command.vector =
          [Utf8.ofString "tool", Utf8.ofString "exec", Utf8.ofString "-d", Utf8.ofString "exec",
            Utf8.ofString "python3", Utf8.ofString "/debugpy/launcher",
            Utf8.ofString "h:1:80"] ++ others := by
  intro others arguments machine program
  have haccept : Intake.accept program.argv = .ok arguments := rfl
  refine ⟨haccept, ?_⟩
  obtain ⟨command, full, hforwards, hattempts⟩ :=
    (prepare_forwards (Utf8.ofString "80") others (Utf8.ofString "h:1") (Utf8.ofString "tool")
      (Utf8.ofString "exec")).2 machine program haccept
  have hbare : BarePort (Utf8.ofString "80") := isBare_iff.mp (by decide)
  have hvector := hforwards.vector_eq
  rw [hforwards.full_of_bare hbare] at hvector
  refine ⟨command, ?_, hvector⟩
  rw [hattempts, hvector]
  exact if_pos (by decide)

end Launch

end ContainerLaunch
