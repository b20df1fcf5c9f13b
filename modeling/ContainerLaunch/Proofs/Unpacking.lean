import ContainerLaunch.Proofs.Requests
import Mathlib.Data.Set.Function

/-!
# Requests and the lists they are unpacked from

A request can be told from its list of arguments and the list from the request: they correspond
one to one, the lists that are long enough and the requests that forward something.  The request
may also be counted out from the length of the list.  Once the length has been found sufficient, no
later step of the counting can go wrong.
-/

namespace ContainerLaunch.Request

/-! ## Unpacking by counting -/

/-- The number of the appended values. -/
def appended : Nat := 3

/-- What may keep a list from being counted out. -/
inductive Obstacle where
  /-- The list is shorter than the fewest arguments. -/
  | tooFew
  /-- Fewer arguments than are appended cannot be taken off the end. -/
  | underflow
  /-- What was taken off the end are not three values. -/
  | misfit
  deriving DecidableEq, Repr

/-- A request counted out from the length of the list: the length is looked at first, then the
appended values are taken off the end, then they are told apart. -/
def unpackByCount (arguments : List Bytes) : Except Obstacle Request :=
  let found := arguments.length
  if found < fewest then .error .tooFew
  else if found < appended then .error .underflow
  else
    match arguments.splitAt (found - appended) with
    | (forwarded, [host, tool, container]) => .ok ⟨forwarded, host, tool, container⟩
    | _ => .error .misfit

theorem unpackByCount_of_short {arguments : List Bytes} (h : arguments.length < fewest) :
    unpackByCount arguments = .error .tooFew :=
  if_pos h

theorem unpackByCount_append {forwarded : List Bytes} (h : forwarded ≠ [])
    (host tool container : Bytes) :
    unpackByCount (forwarded ++ [host, tool, container]) =
      .ok ⟨forwarded, host, tool, container⟩ := by
  have hpositive : 0 < forwarded.length := List.length_pos_iff.mpr h
  have hlength : (forwarded ++ [host, tool, container]).length = forwarded.length + 3 :=
    List.length_append
  have hcut : (forwarded ++ [host, tool, container]).splitAt (forwarded.length + 3 - appended) =
      (forwarded, [host, tool, container]) := by
    rw [List.splitAt_eq, appended, Nat.add_sub_cancel, List.take_left, List.drop_left]
  simp only [unpackByCount, hlength]
  rw [if_neg (by unfold fewest; omega), if_neg (by unfold appended; omega), hcut]

/-- Counting finds the same requests, and it is kept from it by the guard and by nothing else. -/
theorem unpackByCount_eq (arguments : List Bytes) :
    unpackByCount arguments = (unpack arguments).mapError fun _ ↦ .tooFew := by
  by_cases hshort : arguments.length < fewest
  · rw [unpackByCount_of_short hshort, unpack_of_short hshort]
    rfl
  · obtain ⟨address, others, host, tool, container, rfl⟩ :=
      exists_eq_append (Nat.le_of_not_lt hshort)
    rw [unpackByCount_append (List.cons_ne_nil address others), unpack_append]
    rfl

/-! ## Lists and requests -/

theorem exists_unpack_eq_ok_iff {arguments : List Bytes} :
    (∃ request, unpack arguments = .ok request) ↔ fewest ≤ arguments.length := by
  constructor
  · rintro ⟨request, hrequest⟩
    by_contra hlong
    rw [unpack_of_short (Nat.lt_of_not_le hlong)] at hrequest
    cases hrequest
  · exact exists_unpack_eq_ok

theorem unpack_eq_ok_self {request : Request} (h : request.forwarded ≠ []) :
    unpack (request.forwarded ++ [request.host, request.tool, request.container]) =
      .ok request :=
  unpack_eq_ok_iff.mpr ⟨h, rfl⟩

theorem eq_iff_of_unpack_eq_ok {arguments arguments' : List Bytes} {request request' : Request}
    (h : unpack arguments = .ok request) (h' : unpack arguments' = .ok request') :
    request = request' ↔ arguments = arguments' := by
  constructor
  · rintro rfl
    exact unpack_injective h h'
  · rintro rfl
    exact Except.ok.inj (h.symm.trans h')

theorem mapsTo_unpack :
    Set.MapsTo unpack {arguments | fewest ≤ arguments.length}
      (Except.ok '' {request | request.forwarded ≠ []}) := by
  intro arguments hlong
  obtain ⟨request, hrequest⟩ := exists_unpack_eq_ok hlong
  exact ⟨request, (unpack_eq_ok_iff.mp hrequest).1, hrequest.symm⟩

theorem injOn_unpack : Set.InjOn unpack {arguments | fewest ≤ arguments.length} := by
  intro arguments hlong arguments' _ hequal
  obtain ⟨request, hrequest⟩ := exists_unpack_eq_ok hlong
  exact unpack_injective hrequest (hequal ▸ hrequest)

theorem surjOn_unpack :
    Set.SurjOn unpack {arguments | fewest ≤ arguments.length}
      (Except.ok '' {request | request.forwarded ≠ []}) := by
  rintro _ ⟨request, hforwarded, rfl⟩
  have hrequest := unpack_eq_ok_self hforwarded
  exact ⟨_, exists_unpack_eq_ok_iff.mp ⟨request, hrequest⟩, hrequest⟩

theorem bijOn_unpack :
    Set.BijOn unpack {arguments | fewest ≤ arguments.length}
      (Except.ok '' {request | request.forwarded ≠ []}) :=
  ⟨mapsTo_unpack, injOn_unpack, surjOn_unpack⟩

/-- Unpacking is one to one between the lists of at least four arguments and the requests that
forward at least one.  It succeeds on no other list, and then tells the length it found; counting
the request out comes to the same, and neither falls short in its subtraction nor ever finds other
than three values at the end.  A request put together again is the list it was unpacked from, and
every list put together of such parts is unpacked to these parts. -/
theorem unpack_one_to_one :
    Set.BijOn unpack {arguments | 4 ≤ arguments.length}
        (Except.ok '' {request | request.forwarded ≠ []}) ∧
      (∀ arguments : List Bytes,
        ((∃ request, unpack arguments = .ok request) ↔ 4 ≤ arguments.length) ∧
          (arguments.length < 4 →
            unpack arguments = .error (.tooFewArguments arguments.length 4)) ∧
          unpackByCount arguments = (unpack arguments).mapError (fun _ ↦ .tooFew) ∧
          ∀ request, unpack arguments = .ok request →
            request.forwarded ++ [request.host, request.tool, request.container] = arguments ∧
              ∃ address, request.address? = some address) ∧
      (∀ (forwarded : List Bytes) (host tool container : Bytes), forwarded ≠ [] →
        unpack (forwarded ++ [host, tool, container]) =
          .ok ⟨forwarded, host, tool, container⟩) ∧
      ∀ (arguments arguments' : List Bytes) (request request' : Request),
        unpack arguments = .ok request → unpack arguments' = .ok request' →
          (request = request' ↔ arguments = arguments') := by
  refine ⟨bijOn_unpack, fun arguments ↦ ⟨exists_unpack_eq_ok_iff, unpack_of_short,
    unpackByCount_eq arguments, fun request hrequest ↦ ?_⟩,
    fun forwarded host tool container h ↦ ?_,
    fun arguments arguments' request request' h h' ↦ eq_iff_of_unpack_eq_ok h h'⟩
  · have harguments := (unpack_eq_ok_iff.mp hrequest).2
    obtain ⟨address, others, hforwarded⟩ := exists_forwarded_eq_cons hrequest
    refine ⟨harguments.symm, address, ?_⟩
    rw [address?, hforwarded, List.head?_cons]
  · exact unpack_eq_ok_iff.mpr ⟨h, rfl⟩

end ContainerLaunch.Request
