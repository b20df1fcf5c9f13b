import ContainerLaunch.Address
import ContainerLaunch.Command
import ContainerLaunch.Failure
import ContainerLaunch.Settings

/-! # Requests

The debug adapter appends three values to the arguments it wants forwarded: the name of its host,
the tool that runs commands in containers, and the container. A request holds the four parts.
-/

namespace ContainerLaunch

@[ext]
structure Request where
  forwarded : List Bytes
  host : Bytes
  tool : Bytes
  container : Bytes
  deriving DecidableEq, Repr

namespace Request

/-- The three appended values and one forwarded argument. -/
def fewest : Nat := 4

def unpack (arguments : List Bytes) : Except Failure Request :=
  match arguments.reverse with
  | container :: tool :: host :: last :: front =>
    .ok ⟨(last :: front).reverse, host, tool, container⟩
  | _ => .error (.tooFewArguments arguments.length fewest)

/-- The address of the debug adapter as it was given. -/
def address? (request : Request) : Option Bytes := request.forwarded.head?

/-- The forwarded arguments, the first of them a full address. -/
def resolved (request : Request) : List Bytes :=
  match request.forwarded with
  | [] => []
  | address :: others => Address.qualify request.host address :: others

/-- The tool is asked to run the debug launcher in the container, detached. -/
def command (settings : Settings) (request : Request) : Command where
  program := request.tool
  arguments :=
    [Utf8.ofString "exec", Utf8.ofString "-d", request.container,
      Utf8.encode settings.python, Utf8.encode settings.launcher] ++ request.resolved

def shown (request : Request) : Text :=
  Shown.record "Invocation"
    [Shown.field "forwarded_args" (Shown.byteStrings request.forwarded),
      Shown.field "hostname" (Quoted.write request.host),
      Shown.field "exe_path" (Quoted.write request.tool),
      Shown.field "container_id" (Quoted.write request.container)]

end Request

end ContainerLaunch
