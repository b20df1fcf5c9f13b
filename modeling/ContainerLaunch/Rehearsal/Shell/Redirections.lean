import ContainerLaunch.Rehearsal.Shell.Expansion
import ContainerLaunch.Rehearsal.Shell.Reader

/-! # Redirections

A redirection opens a file or a document for a command, or makes a descriptor a copy of another one.
The names of files are expanded before any of them is opened, but a document only when its turn
comes.
-/

namespace ContainerLaunch.Rehearsal.Shell

/-- What is said of an error when a file is opened. -/
def openReason (creates : Bool) (cause : SystemError) : Bytes :=
  if cause = .missing ∨ cause = .notDirectory then
    said (if creates then "Directory nonexistent" else "No such file")
  else reason cause

/-- A redirection whose name has been expanded. -/
inductive Settled where
  | file (descriptor : Nat) (access : Access) (name : Bytes)
  | copy (descriptor : Nat) (source : Option Nat)
  | document (descriptor : Nat) (text : Word)

namespace Run

/-- Adds a stream and tells the handle for it. -/
def addStream (stream : Stream) (reads writes : Bool) : Run Handle := do
  let (world, number) := (← world).addStream stream
  changeWorld fun _ ↦ world
  return ⟨number, reads, writes⟩

def writes : Access → Bool
  | .read => false
  | _ => true

/-- Opens what is at a place; a file that has been there before may be guarded. -/
def openNode (access : Access) (place : Place) (node : Node) (isNew : Bool) :
    Run (Except SystemError Handle) := do
  let reads := access = .read || access = .readAndWrite
  match node with
  | .directory =>
    if writes access then return .error .isDirectory
    else return .ok (← addStream .directory true false)
  | .device (.descriptor number) =>
    match (← process).handles.lookup number with
    | some handle => return .ok handle
    | none => return .error .missing
  | .device device => return .ok (← addStream (.device device) reads (writes access))
  | .file _ =>
    let guarded := !isNew && access = .write && (← hasOption 'C')
    if guarded then return .error .alreadyThere
    else
      if access = .write || access = .overwrite then
        changeWorld fun world ↦ { world with tree := world.tree.put place (.file []) }
      return .ok (← addStream (.file place 0 (access = .append)) reads (writes access))
  | .tool _ | .link _ =>
    if writes access then return .error .forbidden
    else return .ok (← addStream (.file place 0 false) true false)

/-- Opens a file, which is made if it is to be written and not there. -/
def openFile (access : Access) (name : Bytes) : Run (Except SystemError Handle) := do
  let state ← get
  let tree := state.world.tree
  let working := state.process.working
  let found : Except SystemError (Place × Node) := do
    let place ← tree.reach working name
    return (place, ← tree.resolve working name)
  match found with
  | .ok (place, node) => openNode access place node false
  | .error cause =>
    if cause ≠ .missing || !writes access || name.isEmpty then return .error cause
    else
      match tree.newPlace working name with
      | .error cause => return .error cause
      | .ok place =>
        changeWorld fun world ↦ { world with tree := world.tree.put place (.file []) }
        openNode access place (.file []) true

def setHandle (descriptor : Nat) (handle : Option Handle) : Run Unit := changeProcess fun process ↦
  let others := process.handles.filter (·.1 ≠ descriptor)
  match handle with
  | some handle => { process with handles := (descriptor, handle) :: others }
  | none => { process with handles := others }

/-- Says that a word tells no descriptor, which counts as a mistake of the script. -/
def failDescriptor {α : Type} : Run α := do
  changeProcess fun process ↦ { process with line := process.readLine }
  fail (said ("Syntax error: " ++ Mistake.badDescriptor.message))

/-- Expands the words of a redirection. -/
def settle (output : Option Command → Run Bytes) : Redirection → Run Settled
  | .file descriptor access name => do
    return .file descriptor access (← expandWhole output .atFront name)
  | .copy descriptor source => return .copy descriptor source
  | .copyNamed descriptor name => do
    match (← expandArgument output name).head? with
    | some [b] =>
      if b = Ascii.hyphen then return .copy descriptor none
      else if Ascii.isDigit b then return .copy descriptor (some (b.toNat - 0x30))
      else failDescriptor
    | _ => failDescriptor
  | .document descriptor number => do
    let document := (← process).documents.find? (·.number = number)
    return .document descriptor ((document.map (·.text)).getD [])

/-- Carries out a redirection. -/
def redirect (output : Option Command → Run Bytes) : Settled → Run Unit
  | .file descriptor access name => do
    let creates := writes access
    match ← openFile access name with
    | .ok handle => setHandle descriptor (some handle)
    | .error cause =>
      let verb := if creates then "cannot create " else "cannot open "
      fail (said verb ++ name ++ said ": " ++ openReason creates cause)
  | .copy descriptor none => setHandle descriptor none
  | .copy descriptor (some source) => do
    match (← process).handles.lookup source with
    | some handle => setHandle descriptor (some handle)
    | none =>
      if source ≠ descriptor then
        fail (decimal source ++ said ": " ++ reason .badDescriptor)
  | .document descriptor text => do
    let bytes ← expandWhole output .nowhere text
    setHandle descriptor (some (← addStream (.channel bytes []) true false))

/-- Does something in the way that errors do not end the shell, and tells whether there was one. -/
def survives (run : Run Unit) : Run Bool := do
  try
    run
    return true
  catch stop =>
    match stop with
    | .error => return false
    | stop => throw stop

/-- What is left to be read from a descriptor, or why nothing can be read from it. -/
def unread (descriptor : Nat) : Run (Except SystemError Bytes) := do
  let state ← get
  match state.process.handles.lookup descriptor with
  | some ⟨stream, true, _⟩ =>
    match state.world.stream? stream with
    | some .directory => return .error .isDirectory
    | _ => return .ok (state.world.unread stream)
  | _ => return .error .badDescriptor

/-- Leaves only the last bytes to be read from a descriptor. -/
def leaveUnread (descriptor : Nat) (rest : Bytes) : Run Unit := do
  match (← process).handles.lookup descriptor with
  | some handle => changeWorld (·.leaveUnread handle.stream rest)
  | none => return ()

end Run

end ContainerLaunch.Rehearsal.Shell
