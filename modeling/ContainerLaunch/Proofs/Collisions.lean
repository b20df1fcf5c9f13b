import ContainerLaunch.Proofs.Addresses
import ContainerLaunch.Proofs.Course

/-!
# Collisions of commands

Which of the things a launch is given its command does not tell.  An address that is a number
alone takes the name of the host with it into the command; any other address hides that name.
Hence two lists of arguments come to the same command in three ways only, and when both addresses
are numbers alone nothing at all is lost.
-/

namespace ContainerLaunch

/-! ## Addresses -/

namespace Address

variable {host host' address address' : Bytes}

/-- Two addresses, each given together with the name of a host, stand for the same place. -/
def Agree (host address host' address' : Bytes) : Prop :=
  (BarePort address ∧ BarePort address' ∧ address = address' ∧ host = host') ∨
    (¬BarePort address ∧ ¬BarePort address' ∧ address = address') ∨
    (BarePort address ∧ ¬BarePort address' ∧ address' = host ++ Ascii.colon :: address) ∨
    (¬BarePort address ∧ BarePort address' ∧ address = host' ++ Ascii.colon :: address')

/-- The number alone holds no colon, so the name of the host ends at the last colon, whatever
colons and digits it holds itself. -/
theorem qualify_eq_qualify_iff :
    qualify host address = qualify host' address' ↔ Agree host address host' address' := by
  unfold Agree
  by_cases hbare : BarePort address
  · by_cases hbare' : BarePort address'
    · rw [qualify_of_bare host hbare, qualify_of_bare host' hbare']
      simp only [hbare, hbare', not_true, false_and, and_false, or_false, true_and]
      constructor
      · intro h
        exact (append_cons_inj_of_notMem hbare.colon_notMem hbare'.colon_notMem h).symm
      · rintro ⟨rfl, rfl⟩
        rfl
    · rw [qualify_of_bare host hbare, qualify_of_not_bare host' hbare']
      simp [hbare, hbare', eq_comm]
  · by_cases hbare' : BarePort address'
    · rw [qualify_of_not_bare host hbare, qualify_of_bare host' hbare']
      simp [hbare, hbare']
    · rw [qualify_of_not_bare host hbare, qualify_of_not_bare host' hbare']
      simp [hbare, hbare']

theorem Agree.eq_of_bare (hbare : BarePort address) (hbare' : BarePort address')
    (h : Agree host address host' address') : address = address' ∧ host = host' := by
  simpa [Agree, hbare, hbare'] using h

end Address

/-! ## Commands -/

/-- What a command keeps of the settings and of a request; all of it can be told from it. -/
theorem Request.command_eq_command_iff {settings settings' : Settings}
    {address address' host host' tool tool' container container' : Bytes}
    {others others' : List Bytes} :
    command settings ⟨address :: others, host, tool, container⟩ =
        command settings' ⟨address' :: others', host', tool', container'⟩ ↔
      settings.python = settings'.python ∧ settings.launcher = settings'.launcher ∧
        tool = tool' ∧ container = container' ∧ others = others' ∧
        Address.Agree host address host' address' := by
  simp only [command, resolved, Command.mk.injEq, List.cons_append, List.nil_append,
    List.cons.injEq, true_and, Utf8.encode_injective.eq_iff, Address.qualify_eq_qualify_iff]
  constructor
  · rintro ⟨htool, hcontainer, hpython, hlauncher, hagree, hothers⟩
    exact ⟨hpython, hlauncher, htool, hcontainer, hothers, hagree⟩
  · rintro ⟨hpython, hlauncher, htool, hcontainer, hothers, hagree⟩
    exact ⟨htool, hcontainer, hpython, hlauncher, hagree, hothers⟩

namespace Launch

open Address

/-- Two launches come to the same command in three ways and no other: by addresses that are the
same number alone, together with the names of the hosts; by the same address, which is no number
alone, whatever the names of the hosts; or by a number alone in the one and, in the other, what
becomes of that number.  Everything else has to be equal, but the settings' debugging. -/
theorem prepare_collisions (settings settings' : Settings) {arguments arguments' : List Bytes}
    (h : 4 ≤ arguments.length) (h' : 4 ≤ arguments'.length) :
    ∃ address others host tool container address' others' host' tool' container'
        command command',
      arguments = address :: others ++ [host, tool, container] ∧
      arguments' = address' :: others' ++ [host', tool', container'] ∧
      (prepare settings arguments).outcome = .ok command ∧
      (prepare settings' arguments').outcome = .ok command' ∧
      (command = command' ↔
        settings.python = settings'.python ∧ settings.launcher = settings'.launcher ∧
          tool = tool' ∧ container = container' ∧ others = others' ∧
          Agree host address host' address') ∧
      (settings = settings' → Request.unpack arguments = Request.unpack arguments' →
        command = command') ∧
      (settings = settings' → BarePort address → BarePort address' → command = command' →
        arguments = arguments') := by
  obtain ⟨address, others, host, tool, container, rfl⟩ := Request.exists_eq_append h
  obtain ⟨address', others', host', tool', container', rfl⟩ := Request.exists_eq_append h'
  have hunpack := Request.unpack_append address others host tool container
  have hunpack' := Request.unpack_append address' others' host' tool' container'
  refine ⟨address, others, host, tool, container, address', others', host', tool', container',
    _, _, rfl, rfl, by rw [prepare_of_unpack_ok settings hunpack],
    by rw [prepare_of_unpack_ok settings' hunpack'], Request.command_eq_command_iff, ?_, ?_⟩
  · rintro rfl hequal
    rw [hunpack, hunpack'] at hequal
    rw [Except.ok.inj hequal]
  · rintro rfl hbare hbare' hequal
    obtain ⟨-, -, htool, hcontainer, hothers, hagree⟩ := Request.command_eq_command_iff.mp hequal
    obtain ⟨haddress, hhost⟩ := hagree.eq_of_bare hbare hbare'
    rw [haddress, hhost, htool, hcontainer, hothers]

/-- The number 5 on the host `h` is the full address `h:5` on any host. -/
theorem prepare_collisions_of_full_address :
    let arguments : List Bytes := [[0x35], [0x68], [0x65], [0x63]]
    let arguments' : List Bytes := [[0x68, 0x3A, 0x35], [0x78], [0x65], [0x63]]
    4 ≤ arguments.length ∧ 4 ≤ arguments'.length ∧
      (prepare {} arguments).outcome = (prepare {} arguments').outcome := by
  intro arguments arguments'
  have hlong : 4 ≤ arguments.length := by decide
  have hlong' : 4 ≤ arguments'.length := by decide
  refine ⟨hlong, hlong', ?_⟩
  obtain ⟨address, others, host, tool, container, address', others', host', tool', container',
    command, command', harguments, harguments', hprepare, hprepare', hiff, -⟩ :=
    prepare_collisions {} {} hlong hlong'
  obtain ⟨rfl, hrest⟩ := List.cons.inj harguments
  obtain ⟨rfl, hrest'⟩ := List.cons.inj harguments'
  obtain ⟨rfl, hend⟩ := List.append_inj' ((List.nil_append _).trans hrest) rfl
  obtain ⟨rfl, hend'⟩ := List.append_inj' ((List.nil_append _).trans hrest') rfl
  simp only [List.cons.injEq, and_true] at hend hend'
  obtain ⟨rfl, rfl, rfl⟩ := hend
  obtain ⟨rfl, rfl, rfl⟩ := hend'
  have hbare : BarePort [0x35] := isBare_iff.mp (by decide)
  have hfull : ¬BarePort [0x68, 0x3A, 0x35] := mt isBare_iff.mpr (by decide)
  have hequal : command = command' :=
    hiff.mpr ⟨rfl, rfl, rfl, rfl, rfl, .inr (.inr (.inl ⟨hbare, hfull, rfl⟩))⟩
  rw [hprepare, hprepare', hequal]

end Launch

end ContainerLaunch
