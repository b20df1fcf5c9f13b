import ContainerLaunch.Text.Ascii

/-! # Addresses of the debug adapter

An address is the name of a host, a colon and the number of a socket there. It may be given as the
number alone, which within a container would mean a socket of the container itself; such an address
is completed with the name of the host.
-/

namespace ContainerLaunch.Address

/-- A number alone: ASCII digits and at least one of them. -/
def isBare (address : Bytes) : Bool := !address.isEmpty && address.all Ascii.isDigit

/-- A number alone is put after the host and a colon; any other address stays as it is. -/
def qualify (host address : Bytes) : Bytes :=
  if isBare address then host ++ Ascii.colon :: address else address

end ContainerLaunch.Address
