import ContainerLaunch.Rehearsal.FileTree
import ContainerLaunch.Rehearsal.Options
import ContainerLaunch.Rehearsal.Performance

/-! # Operands of the tools that read

A tool reads its operands in order. A hyphen stands for standard input, which is empty once it has
been read.
-/

namespace ContainerLaunch.Rehearsal

/-- What a tool finds around it. -/
structure Scene where
  /-- The name it was called by. -/
  program : Bytes
  tree : FileTree
  working : Place
  stdin : Bytes
  /-- Why standard input cannot be read, if it cannot. -/
  trouble : Option SystemError := none
  /-- The file that standard input comes from. -/
  source : Option Place := none
  /-- The file that standard output goes to. -/
  target : Option Place := none

/-- What came of reading an operand. -/
inductive Found where
  | bytes (bytes : Bytes)
  /-- The file that standard output goes to. -/
  | target (bytes : Bytes)
  | directory
  | nothing (reason : Bytes)

/-- What the system says of an error, for the messages of tools. -/
def reason : SystemError → Bytes
  | .numbered number => Utf8.encode (SystemError.phrase number)
  | cause => Utf8.encode cause.message

namespace Scene

def lookUp (scene : Scene) (path : Bytes) : Found :=
  match scene.tree.resolve scene.working path with
  | .ok .directory => .directory
  | .ok (.file content) =>
    let place := (scene.tree.reach scene.working path).toOption
    if place.isSome && place = scene.target then .target content else .bytes content
  | .ok (.device _) | .ok (.tool _) | .ok (.link _) => .bytes []
  | .error cause => .nothing (reason cause)

def isDevice (scene : Scene) (path : Bytes) : Bool :=
  match scene.tree.resolve scene.working path with
  | .ok (.device _) => true
  | _ => false

def isStdin (scene : Scene) (operand : Bytes) : Bool :=
  operand == [Ascii.hyphen] || match scene.tree.resolve scene.working operand with
    | .ok (.device device) => device = .descriptor 0
    | _ => false

/-- What is found on standard input when so much of it is left. -/
def fromStdin (scene : Scene) (stdin : Bytes) : Found :=
  match scene.trouble with
  | none =>
    if scene.source.isSome && scene.source = scene.target then .target stdin else .bytes stdin
  | some cause => if cause = .isDirectory then .directory else .nothing (reason cause)

/-- What is found at each operand; without any, standard input is read. -/
def readOperands (scene : Scene) (operands : List Bytes) : List (Bytes × Found) :=
  readFrom scene.stdin (if operands.isEmpty then [[Ascii.hyphen]] else operands)
where
  /-- Reads with so much of standard input left. -/
  readFrom (stdin : Bytes) : List Bytes → List (Bytes × Found)
    | [] => []
    | operand :: later =>
      if scene.isStdin operand then (operand, scene.fromStdin stdin) :: readFrom [] later
      else (operand, scene.lookUp operand) :: readFrom stdin later

/-- What is left of standard input once these operands have been read. -/
def unread (scene : Scene) (operands : List Bytes) : Bytes :=
  if operands.isEmpty || operands.any scene.isStdin then [] else scene.stdin

/-- Words of the tool on standard error, after its name. -/
def complaint (scene : Scene) (words : Bytes) : Utterance :=
  (.err, scene.program ++ Utf8.ofString ": " ++ words ++ [Ascii.newline])

/-- A tool that did nothing but say something. -/
def refused (scene : Scene) (code : Nat) (said : List Utterance) : Performance :=
  ⟨said, code, scene.stdin⟩

end Scene

def tryHelp (program : Bytes) : Bytes :=
  Utf8.ofString "Try '" ++ program ++ Utf8.ofString " --help' for more information.\n"

end ContainerLaunch.Rehearsal
