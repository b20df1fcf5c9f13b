import ContainerLaunch.Rehearsal.Shell.State

/-! # Signals

A signal that nothing else has been arranged for ends a process or does nothing. A shell can ignore
signals and can run commands when they come.
-/

namespace ContainerLaunch.Rehearsal.Shell

namespace Signal

/-- Numbers, names, and what is said of a process that a signal has killed. -/
def named : List (Nat × String × String) :=
  [(1, "HUP", "Hangup"), (2, "INT", "Interrupt"), (3, "QUIT", "Quit"),
    (4, "ILL", "Illegal instruction"), (5, "TRAP", "Trace/breakpoint trap"),
    (6, "ABRT", "Aborted"), (7, "BUS", "Bus error"), (8, "FPE", "Floating point exception"),
    (9, "KILL", "Killed"), (10, "USR1", "User defined signal 1"),
    (11, "SEGV", "Segmentation fault"), (12, "USR2", "User defined signal 2"),
    (13, "PIPE", "Broken pipe"), (14, "ALRM", "Alarm clock"), (15, "TERM", "Terminated"),
    (16, "16", "Stack fault"), (17, "CHLD", "Child exited"), (18, "CONT", "Continued"),
    (19, "STOP", "Stopped (signal)"), (20, "TSTP", "Stopped"), (21, "TTIN", "Stopped (tty input)"),
    (22, "TTOU", "Stopped (tty output)"), (23, "URG", "Urgent I/O condition"),
    (24, "XCPU", "CPU time limit exceeded"), (25, "XFSZ", "File size limit exceeded"),
    (26, "VTALRM", "Virtual timer expired"), (27, "PROF", "Profiling timer expired"),
    (28, "WINCH", "Window changed"), (29, "IO", "I/O possible"), (30, "PWR", "Power failure"),
    (31, "SYS", "Bad system call"), (32, "32", "Unknown signal 32"),
    (33, "33", "Unknown signal 33")]

/-- The first and the last of the signals that have no meaning of their own. -/
def firstReal : Nat := 34

def lastReal : Nat := 64

/-- The name of a signal; the number zero is the end of a shell. -/
def name (signal : Nat) : Bytes :=
  match named.lookup signal with
  | some (name, _) => said name
  | none =>
    if signal = 0 then said "EXIT"
    else if signal = firstReal then said "RTMIN"
    else if signal = lastReal then said "RTMAX"
    else if signal < 50 then said "RTMIN+" ++ decimal (signal - firstReal)
    else said "RTMAX-" ++ decimal (lastReal - signal)

def description (signal : Nat) : Bytes :=
  match named.lookup signal with
  | some (_, words) => said words
  | none => said "Real-time signal " ++ decimal (signal - firstReal)

/-- The signal that a number or a name stands for, in either case. -/
def ofBytes? (least : Nat) (bytes : Bytes) : Option Nat :=
  match Ascii.number? bytes with
  | some n => if n ≤ lastReal then some n else none
  | none =>
    (List.range (lastReal + 1)).find? fun signal ↦
      least ≤ signal && (name signal).map Ascii.toLower = bytes.map Ascii.toLower

/-- The signals that do nothing unless something else is arranged. -/
def isHarmless (signal : Nat) : Bool := [0, 17, 18, 19, 20, 21, 22, 23, 28].contains signal

/-- The signals that nothing else can be arranged for. -/
def isUnstoppable (signal : Nat) : Bool := signal = 9 || signal = 19

/-- The signals that no one speaks of when they have killed a process. -/
def isSilent (signal : Nat) : Bool := signal = 2 || signal = 13

end Signal

/-- The first byte of a word for a process in the background. -/
def Background.sign : UInt8 := 0x25

namespace Run

/-- The process in the background that a word stands for: the latest one, the one before, or the one
with a number. -/
def backgroundNamed (word : Bytes) : Run Background := do
  let children := (← process).children
  let after := word.drop 1
  let (found, complaint) :=
    if after.isEmpty || after = [Background.sign] || after = [0x2B] then
      (children.head?, said "No current job")
    else if after = [Ascii.hyphen] then (children[1]?, said "No previous job")
    else
      let found := (Ascii.number? after).bind fun number ↦ children.find? (·.number = number)
      (found, said "No such job: " ++ word)
  match found with
  | some child => return child
  | none => fail complaint

/-- Takes in a signal that has been sent to this process. -/
def receive (signal : Nat) : Run Unit := do
  let process ← process
  let reaction := if process.deaf.contains signal then some .ignores
    else process.reactions.lookup signal
  match if Signal.isUnstoppable signal then none else reaction with
  | some .ignores => return ()
  | some (.runs _) =>
    if !process.pending.contains signal then
      changeProcess fun process ↦
        { process with pending := (signal :: process.pending).mergeSort }
  | none =>
    if Signal.isHarmless signal then return ()
    else if h : 0 < signal ∧ signal < 0x7F then throw (.ended (.killed signal h.1 h.2))
    else return ()

/-- Takes in all signals that have come meanwhile. -/
def receiveSent : Run Unit := do
  let state ← get
  let (own, others) := state.world.sent.partition (·.1 = state.process.id)
  changeWorld ({ · with sent := others })
  for (_, signal) in own do receive signal

/-- Sends a signal and tells whether there is such a process. -/
def send (process signal : Nat) : Run Bool := do
  let state ← get
  if process = state.process.id then
    receive signal
    return true
  else if state.world.alive.contains process then
    changeWorld fun world ↦ { world with sent := world.sent ++ [(process, signal)] }
    return true
  else return false

/-- Says what has killed a process. -/
def sayKilled (status : Ended) : Run Unit := do
  match status.val.ending with
  | .killed signal =>
    if !Signal.isSilent signal then
      let _ ← write 2 (Signal.description signal ++ [Ascii.newline])
  | _ => return ()

def clearReactions (process : Process) : Process :=
  { process with
    reactions := process.reactions.filter (·.2 = .ignores)
    pending := [] }

end Run

end ContainerLaunch.Rehearsal.Shell
