import ContainerLaunch.Proofs.Requests
import ContainerLaunch.Proofs.Separators

/-!
# Full addresses

A number alone is completed with the name of the host.  The colon that is put between them keeps
what comes of it from being a number alone again, whatever the name of the host is, so completing
it once more changes nothing.  The number holds no colon itself, so the last one tells the two
apart again.
-/

namespace ContainerLaunch

namespace Address

variable {address : Bytes}

/-- The address is a number alone. -/
def BarePort (address : Bytes) : Prop :=
  address ≠ [] ∧ ∀ b ∈ address, 0x30 ≤ b ∧ b ≤ 0x39

theorem isBare_iff : isBare address = true ↔ BarePort address := by
  simp [isBare, BarePort, Ascii.isDigit]

theorem BarePort.colon_notMem (h : BarePort address) : Ascii.colon ∉ address := by
  intro hcolon
  exact absurd (h.2 _ hcolon).2 (by decide)

theorem qualify_of_bare (host : Bytes) (h : BarePort address) :
    qualify host address = host ++ Ascii.colon :: address :=
  if_pos (isBare_iff.mpr h)

theorem qualify_of_not_bare (host : Bytes) (h : ¬BarePort address) :
    qualify host address = address :=
  if_neg (mt isBare_iff.mp h)

/-- A completed address has a colon, and any other was no number alone before. -/
theorem not_barePort_qualify (host address : Bytes) : ¬BarePort (qualify host address) := by
  by_cases hbare : BarePort address
  · rw [qualify_of_bare host hbare]
    intro hfull
    apply hfull.colon_notMem
    exact List.mem_append_right host List.mem_cons_self
  · rw [qualify_of_not_bare host hbare]
    exact hbare

theorem qualify_qualify (host' host address : Bytes) :
    qualify host' (qualify host address) = qualify host address :=
  qualify_of_not_bare host' (not_barePort_qualify host address)

theorem barePort_of_qualify_ne {host : Bytes} (h : qualify host address ≠ address) :
    BarePort address := by
  by_contra hbare
  exact h (qualify_of_not_bare host hbare)

/-- The host and the number are found again at the last colon, though the host may hold more. -/
theorem cutAtLast?_qualify (host : Bytes) (h : BarePort address) :
    cutAtLast? Ascii.colon (qualify host address) = some (host, address) := by
  rw [qualify_of_bare host h]
  exact cutAtLast?_append_cons host h.colon_notMem

end Address

namespace Request

open Address

variable (request : Request)

theorem resolved_eq_nil_iff : request.resolved = [] ↔ request.forwarded = [] := by
  unfold resolved
  cases request.forwarded with
  | nil => exact Iff.rfl
  | cons address others => simp

theorem not_barePort_of_head?_resolved {first : Bytes} (h : first ∈ request.resolved.head?) :
    ¬BarePort first := by
  obtain ⟨forwarded, host, tool, container⟩ := request
  cases forwarded with
  | nil => cases h
  | cons address others =>
    obtain rfl := Option.some.inj h
    exact not_barePort_qualify host address

theorem resolved_of_forwarded_resolved (host tool container : Bytes) :
    resolved ⟨request.resolved, host, tool, container⟩ = request.resolved := by
  unfold resolved
  cases request.forwarded with
  | nil => rfl
  | cons address others =>
    exact congrArg (· :: others) (qualify_qualify host request.host address)

/-- Completing an address is final.  What comes of it is no number alone and stays as it is for any
other host.  Where an address is changed at all it is a number alone, and both it and the host are
found again at the last colon.  So the first resolved argument of a request is no number alone, and
the resolved arguments, given with any other three values, are the request that resolves to
them. -/
theorem resolution_final (host address : Bytes) :
    ¬BarePort (qualify host address) ∧
      (∀ host', qualify host' (qualify host address) = qualify host address) ∧
      (qualify host address ≠ address →
        BarePort address ∧
          cutAtLast? Ascii.colon (qualify host address) = some (host, address)) ∧
      ∀ request : Request,
        (request.resolved = [] ↔ request.forwarded = []) ∧
          (∀ first ∈ request.resolved.head?, ¬BarePort first) ∧
          ∀ host' tool container,
            resolved ⟨request.resolved, host', tool, container⟩ = request.resolved ∧
              (request.forwarded ≠ [] →
                unpack (request.resolved ++ [host', tool, container]) =
                  .ok ⟨request.resolved, host', tool, container⟩) := by
  refine ⟨not_barePort_qualify host address, fun host' ↦ qualify_qualify host' host address,
    fun hchanged ↦ ?_, fun request ↦ ⟨resolved_eq_nil_iff request, fun first hfirst ↦ ?_,
      fun host' tool container ↦ ⟨?_, fun hforwarded ↦ ?_⟩⟩⟩
  · have hbare : BarePort address := barePort_of_qualify_ne hchanged
    exact ⟨hbare, cutAtLast?_qualify host hbare⟩
  · exact not_barePort_of_head?_resolved request hfirst
  · exact resolved_of_forwarded_resolved request host' tool container
  · apply unpack_eq_ok_iff.mpr
    exact ⟨mt (resolved_eq_nil_iff request).mp hforwarded, rfl⟩

end Request

end ContainerLaunch
