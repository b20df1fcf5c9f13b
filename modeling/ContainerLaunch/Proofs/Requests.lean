import ContainerLaunch.Request

/-!
# Unpacking of requests

A list of arguments is a request exactly when the three appended values stand behind at least one
forwarded argument.  Every shorter list is refused with its length.
-/

namespace ContainerLaunch.Request

theorem unpack_eq_ok_iff {arguments : List Bytes} {request : Request} :
    unpack arguments = .ok request ↔
      request.forwarded ≠ [] ∧
        arguments = request.forwarded ++ [request.host, request.tool, request.container] := by
  unfold unpack
  constructor
  · intro h
    split at h
    next container tool host last front hreverse =>
      obtain rfl := Except.ok.inj h
      have harguments := congrArg List.reverse hreverse
      simp only [List.reverse_reverse] at harguments
      exact ⟨by simp, by simp [harguments]⟩
    next => simp at h
  · rintro ⟨hforwarded, rfl⟩
    obtain ⟨front, last, hlast⟩ : ∃ front last, request.forwarded = front ++ [last] :=
      ⟨_, _, (List.dropLast_concat_getLast hforwarded).symm⟩
    cases request
    simp only at hlast
    simp [hlast]

/-- A list that is long enough falls into a request and nothing else. -/
theorem exists_unpack_eq_ok {arguments : List Bytes} (h : fewest ≤ arguments.length) :
    ∃ request, unpack arguments = .ok request := by
  unfold unpack
  split
  next => exact ⟨_, rfl⟩
  next hshort =>
    have hlength : fewest ≤ arguments.reverse.length := by simpa using h
    match hreverse : arguments.reverse, hlength with
    | container :: tool :: host :: last :: front, _ =>
      exact absurd hreverse (hshort container tool host last front)

theorem unpack_of_short {arguments : List Bytes} (h : arguments.length < fewest) :
    unpack arguments = .error (.tooFewArguments arguments.length fewest) := by
  unfold unpack
  split
  next hreverse =>
    have hlength := congrArg List.length hreverse
    simp only [List.length_reverse, List.length_cons, fewest] at hlength h
    omega
  next => rfl

/-- A request has an address, the first of its forwarded arguments. -/
theorem exists_forwarded_eq_cons {arguments : List Bytes} {request : Request}
    (h : unpack arguments = .ok request) :
    ∃ address others, request.forwarded = address :: others :=
  List.exists_cons_of_ne_nil (unpack_eq_ok_iff.mp h).1

theorem unpack_append (address : Bytes) (others : List Bytes) (host tool container : Bytes) :
    unpack (address :: others ++ [host, tool, container]) =
      .ok ⟨address :: others, host, tool, container⟩ :=
  unpack_eq_ok_iff.mpr ⟨List.cons_ne_nil _ _, rfl⟩

/-- A list that is long enough, part by part. -/
theorem exists_eq_append {arguments : List Bytes} (h : fewest ≤ arguments.length) :
    ∃ address others host tool container,
      arguments = address :: others ++ [host, tool, container] := by
  obtain ⟨request, hrequest⟩ := exists_unpack_eq_ok h
  obtain ⟨address, others, hforwarded⟩ := exists_forwarded_eq_cons hrequest
  refine ⟨address, others, request.host, request.tool, request.container, ?_⟩
  rw [← hforwarded]
  exact (unpack_eq_ok_iff.mp hrequest).2

theorem unpack_injective {arguments arguments' : List Bytes} {request : Request}
    (h : unpack arguments = .ok request) (h' : unpack arguments' = .ok request) :
    arguments = arguments' :=
  (unpack_eq_ok_iff.mp h).2.trans (unpack_eq_ok_iff.mp h').2.symm

end ContainerLaunch.Request
