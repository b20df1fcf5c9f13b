import ContainerLaunch.Rehearsal.FileTree
import ContainerLaunch.Rehearsal.Shell.Grammar
import ContainerLaunch.WaitStatus

/-! # The world that shells share

What a shell reads and writes goes through streams, which other shells and tools may hold as well.
The file tree and the signals that have been sent are shared too. A process has what belongs to one
shell alone.
-/

namespace ContainerLaunch.Rehearsal.Shell

inductive Stream where
  /-- What is written can be read, in the same order; the latest bytes come first in `behind`. -/
  | channel (front : Bytes) (behind : List Bytes)
  | file (place : Place) (offset : Nat) (appends : Bool)
  | device (device : Device)
  | directory

/-- A stream held by a process. -/
structure Handle where
  stream : Nat
  reads : Bool
  writes : Bool
  deriving DecidableEq, Repr

structure Variable where
  name : Bytes
  /-- A variable may have properties while it is unset. -/
  value : Option Bytes := none
  exported : Bool := false
  isReadOnly : Bool := false
  deriving DecidableEq, Repr

structure Function where
  name : Bytes
  body : Command

/-- What a shell does with a signal. -/
inductive Reaction where
  | ignores
  | runs (commands : Bytes)
  deriving DecidableEq, Repr

/-- A variable as it was before a function had one of its own. -/
structure Saved where
  name : Bytes
  before : Option Variable

/-- A process in the background as the shell that has started it knows it. -/
structure Background where
  number : Nat
  id : Nat
  /-- The shell has waited for it, and may forget it. -/
  waited : Bool := false

/-- What belongs to one shell. -/
structure Process where
  id : Nat
  parent : Nat
  /-- The process that `$$` names, which subshells keep. -/
  mainId : Nat
  name : Bytes
  parameters : List Bytes
  bindings : List Variable
  functions : List Function := []
  aliases : List (Bytes × Bytes) := []
  /-- The letters of the options that are on. -/
  options : Bytes := []
  /-- The letters of the options that a shell at its start has not been told of. -/
  undecided : Bytes := []
  /-- By the number of the signal; the number zero is the end of the shell. -/
  reactions : List (Nat × Reaction) := []
  /-- Signals that do nothing, whatever is arranged for them. -/
  deaf : List Nat := []
  /-- Signals whose commands are still to be run. -/
  pending : List Nat := []
  handles : List (Nat × Handle)
  working : Place
  /-- The path that has led to the working directory. -/
  directory : Bytes
  mask : Nat := 0o022
  /-- Limits that have been set, by the letters of their options. -/
  limits : List (UInt8 × Bytes) := []
  /-- The exit code of the last command. -/
  status : Nat := 0
  /-- The exit code of the last command substitution in the words of a command. -/
  substituted : Nat := 0
  line : Nat := 1
  /-- The line up to which the innermost script has been read. -/
  readLine : Nat := 1
  /-- The same for a script that has come from a file, which other processes go back to. -/
  fileLine : Nat := 1
  /-- The command of the shell that is being carried out. -/
  command : Option Bytes := none
  /-- What the command has printed and not written, the latest first. -/
  printed : List Bytes := []
  /-- Loops around, within the innermost function. -/
  loops : Nat := 0
  functionDepth : Nat := 0
  /-- The exit code before the commands that a signal or the end of the shell has caused. -/
  interrupted : Option Nat := none
  /-- Variables to be restored, for every function around. -/
  saved : List (List Saved) := []
  documents : List Document := []
  documentNumber : Nat := 0
  /-- The processes in the background, the latest first. -/
  children : List Background := []
  lastChild : Option Nat := none
  /-- The number of the parameter at which the reading of options goes on. -/
  optionIndex : Nat := 1
  /-- Where the reading of options within that parameter goes on. -/
  optionPlace : Option Nat := none
  isSubshell : Bool := false

/-- A process in the background, which is carried out when it is waited for. -/
structure Job where
  id : Nat
  process : Process
  command : Command

/-- How a process has ended; none is ever found in the middle of its course. -/
abbrev Ended := { status : WaitStatus // status.Final }

namespace Ended

def exited (code : Nat) : Ended := ⟨.exited (.ofNat (code % 0x100)), .exited _⟩

def killed (signal : Nat) (hpos : 0 < signal) (hlt : signal < 0x7F) : Ended :=
  ⟨.killed signal false, .killed false hpos hlt⟩

end Ended

structure World where
  tree : FileTree
  streams : Array Stream
  nextId : Nat
  /-- The processes that signals can be sent to. -/
  alive : List Nat := []
  /-- Signals that have been sent to processes and have not come there. -/
  sent : List (Nat × Nat) := []
  jobs : List Job := []
  ended : List (Nat × Ended) := []

structure State where
  world : World
  process : Process

/-- Why a shell goes no further. -/
inductive Stop where
  /-- It ends with the code of the last command. -/
  | exit
  /-- An error that it does not survive, about which it has spoken. -/
  | error
  /-- It has been killed, or a tool has taken its place. -/
  | ended (status : Ended)

abbrev Run := ExceptT Stop (StateM State)

/-- Where a shell goes on after a command. -/
inductive Flow where
  | next
  /-- So many loops are left. -/
  | breaks (count : Nat)
  /-- The last of so many loops goes on. -/
  | continues (count : Nat)
  /-- The innermost function or script is left. -/
  | returns
  deriving DecidableEq, Repr

namespace World

def addStream (world : World) (stream : Stream) : World × Nat :=
  ({ world with streams := world.streams.push stream }, world.streams.size)

def stream? (world : World) (number : Nat) : Option Stream := world.streams[number]?

def setStream (world : World) (number : Nat) (stream : Stream) : World :=
  { world with streams := world.streams.setIfInBounds number stream }

/-- What a file holds. -/
def content (world : World) (place : Place) : Bytes :=
  match world.tree.nodeAt place with
  | some (.file content) => content
  | _ => []

/-- All that can still be read from a stream. -/
def unread (world : World) (number : Nat) : Bytes :=
  match world.stream? number with
  | some (.channel front behind) => front ++ behind.reverse.flatten
  | some (.file place offset _) => (world.content place).drop offset
  | _ => []

/-- Leaves only the last bytes of a stream to be read. -/
def leaveUnread (world : World) (number : Nat) (rest : Bytes) : World :=
  match world.stream? number with
  | some (.channel _ _) => world.setStream number (.channel rest [])
  | some (.file place _ appends) =>
    world.setStream number (.file place ((world.content place).length - rest.length) appends)
  | _ => world

/-- The bytes of a file with some of them replaced from an offset on. -/
def overwritten (content : Bytes) (offset : Nat) (bytes : Bytes) : Bytes :=
  let front := content.take offset
  front ++ List.replicate (offset - front.length) Ascii.zero ++ bytes ++
    content.drop (offset + bytes.length)

/-- Writes to a stream; there may be no place for what is written. -/
def write (world : World) (number : Nat) (bytes : Bytes) : Except SystemError World :=
  match world.stream? number with
  | some (.channel front behind) => .ok (world.setStream number (.channel front (bytes :: behind)))
  | some (.file place offset appends) =>
    let content := world.content place
    let offset := if appends then content.length else offset
    let tree := world.tree.put place (.file (overwritten content offset bytes))
    let world := { world with tree := tree }
    .ok (world.setStream number (.file place (offset + bytes.length) appends))
  | some (.device .full) => if bytes.isEmpty then .ok world else .error .noSpace
  | _ => .ok world

end World

end ContainerLaunch.Rehearsal.Shell
