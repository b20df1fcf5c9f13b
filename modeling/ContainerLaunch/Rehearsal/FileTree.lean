import ContainerLaunch.Path
import ContainerLaunch.SystemError
import ContainerLaunch.Text.Utf8

/-! # The file tree of a rehearsal

A few directories, files, links and tools, and the rules by which a path or the name of a program
leads to one of them or to an error.
-/

namespace ContainerLaunch.Rehearsal

inductive Tool where
  | shell
  | echo
  | succeed
  | fail
  | concatenate
  | search
  deriving DecidableEq, Repr

/-- A file that is not stored. -/
inductive Device where
  /-- Empty, and takes anything. -/
  | null
  /-- Takes nothing. -/
  | full
  /-- Stands for what a process holds under this number. -/
  | descriptor (number : Nat)
  deriving DecidableEq, Repr

inductive Node where
  | directory
  | file (content : Bytes)
  | device (device : Device)
  | tool (tool : Tool)
  /-- Stands for another path, seen from the directory of the link. -/
  | link (target : Bytes)
  deriving DecidableEq, Repr

/-- The names that lead to a node from the root. -/
abbrev Place := List Bytes

/-- The node at each place. -/
abbrev FileTree := List (Place × Node)

namespace FileTree

def directories : List String :=
  ["/", "/boot", "/dev", "/dev/pts", "/dev/shm", "/etc", "/etc/alternatives", "/etc/apt",
    "/etc/cron.d", "/etc/cron.daily", "/etc/default", "/etc/dpkg", "/etc/init.d",
    "/etc/ld.so.conf.d", "/etc/opt", "/etc/pam.d", "/etc/profile.d", "/etc/security", "/etc/skel",
    "/etc/ssl", "/etc/ssl/certs", "/etc/systemd", "/home", "/media", "/mnt", "/opt", "/proc",
    "/proc/1", "/proc/self", "/proc/self/fd", "/proc/sys", "/root", "/run", "/run/lock", "/srv",
    "/sys", "/sys/class", "/sys/devices", "/sys/fs", "/sys/kernel", "/tmp", "/usr", "/usr/bin",
    "/usr/games", "/usr/include", "/usr/lib", "/usr/lib/x86_64-linux-gnu", "/usr/lib64",
    "/usr/libexec", "/usr/local", "/usr/local/bin", "/usr/local/etc", "/usr/local/include",
    "/usr/local/lib", "/usr/local/sbin", "/usr/local/share", "/usr/sbin", "/usr/share",
    "/usr/share/doc", "/usr/share/man", "/usr/share/zoneinfo", "/usr/src", "/var", "/var/backups",
    "/var/cache", "/var/lib", "/var/lib/apt", "/var/lib/dpkg", "/var/local", "/var/log",
    "/var/mail", "/var/opt", "/var/spool", "/var/tmp"]

def files : List String :=
  ["/dev/console", "/dev/random", "/dev/tty", "/dev/urandom", "/dev/zero", "/etc/bash.bashrc",
    "/etc/debconf.conf", "/etc/debian_version", "/etc/environment", "/etc/fstab", "/etc/gai.conf",
    "/etc/group", "/etc/gshadow", "/etc/host.conf", "/etc/hostname", "/etc/hosts", "/etc/issue",
    "/etc/issue.net", "/etc/ld.so.cache", "/etc/ld.so.conf", "/etc/login.defs", "/etc/machine-id",
    "/etc/motd", "/etc/nsswitch.conf", "/etc/pam.conf", "/etc/passwd", "/etc/profile",
    "/etc/resolv.conf", "/etc/shadow", "/etc/shells", "/etc/subgid", "/etc/subuid", "/proc/cmdline",
    "/proc/cpuinfo", "/proc/filesystems", "/proc/loadavg", "/proc/meminfo", "/proc/mounts",
    "/proc/self/cmdline", "/proc/self/environ", "/proc/self/maps", "/proc/self/mounts",
    "/proc/self/stat", "/proc/self/status", "/proc/stat", "/proc/uptime", "/proc/version",
    "/root/.bashrc", "/root/.profile", "/usr/lib/os-release", "/var/log/dpkg.log"]

def devices : List (String × Device) :=
  [("/dev/full", .full), ("/dev/null", .null), ("/dev/stdin", .descriptor 0),
    ("/dev/stdout", .descriptor 1), ("/dev/stderr", .descriptor 2),
    ("/proc/self/fd/0", .descriptor 0), ("/proc/self/fd/1", .descriptor 1),
    ("/proc/self/fd/2", .descriptor 2)]

def links : List (String × String) :=
  [("/bin", "usr/bin"), ("/lib", "usr/lib"), ("/lib64", "usr/lib64"), ("/sbin", "usr/sbin"),
    ("/dev/fd", "/proc/self/fd"), ("/etc/mtab", "/proc/mounts"),
    ("/etc/os-release", "../usr/lib/os-release"), ("/var/lock", "/run/lock"), ("/var/run", "/run")]

def tools : List (String × Tool) :=
  [("sh", .shell), ("dash", .shell), ("echo", .echo), ("true", .succeed), ("false", .fail),
    ("cat", .concatenate), ("grep", .search)]

/-- The place a path names when every name on it is taken literally. -/
def place (path : String) : Place := Path.names (Utf8.ofString path)

/-- Files that are not empty. -/
def contents : List (String × String) :=
  [("/etc/passwd", "root:x:0:0:root:/root:/bin/bash\n"), ("/etc/group", "root:x:0:\n")]

/-- The tree that every rehearsal begins with; of most files, what they hold does not matter. -/
def standard : FileTree :=
  (directories.map fun path ↦ (place path, .directory)) ++
    (files.map fun path ↦
      (place path, .file (Utf8.ofString ((contents.lookup path).getD "")))) ++
    (devices.map fun (path, device) ↦ (place path, .device device)) ++
    (links.map fun (path, target) ↦ (place path, .link (Utf8.ofString target))) ++
    (tools.map fun (name, tool) ↦ (place "/usr/bin" ++ [Utf8.ofString name], .tool tool))

def workingDirectory : Place := place "/tmp"

/-- Where the name of a program is looked for, in this order. -/
def searchPath : List Bytes :=
  ["/usr/local/sbin", "/usr/local/bin", "/usr/sbin", "/usr/bin", "/sbin", "/bin"].map Utf8.ofString

def nodeAt (tree : FileTree) (place : Place) : Option Node := tree.lookup place

def put (tree : FileTree) (place : Place) (node : Node) : FileTree :=
  (place, node) :: tree.filter (·.1 != place)

/-- The names within a directory. -/
def namesIn (tree : FileTree) (place : Place) : List Bytes :=
  tree.filterMap fun (other, _) ↦
    if other.length = place.length + 1 ∧ place.isPrefixOf other then other.getLast? else none

def longestName : Nat := 255

/-- The length of the longest path and the zero byte at its end. -/
def longestPath : Nat := 4096

/-- How many links one path may lead through. -/
def mostLinks : Nat := 40

def origin (working : Place) (path : Bytes) : Place := if Path.isAbsolute path then [] else working

/-- Follows names from a place. Anything but a directory ends the walk when a name is still to be
looked up in it. -/
def walk (tree : FileTree) (links : Nat) (here : Place) (names : List Bytes) :
    Except SystemError Place :=
  match names with
  | [] => .ok here
  | name :: later =>
    if tree.nodeAt here ≠ some .directory then .error .notDirectory
    else if name = Path.here then tree.walk links here later
    else if name = Path.above then tree.walk links here.dropLast later
    else if name.length > longestName then .error .nameTooLong
    else
      match tree.nodeAt (here ++ [name]) with
      | none => .error .missing
      | some (.link target) =>
        match links with
        | 0 => .error .tooManyLinks
        | left + 1 => tree.walk left (origin here target) (Path.names target ++ later)
      | some _ => tree.walk links (here ++ [name]) later
termination_by (links, names.length)

/-- The place a path leads to. A slash at its end asks for a directory. -/
def reach (tree : FileTree) (working : Place) (path : Bytes) : Except SystemError Place :=
  if path.isEmpty then .error .missing
  else if path.length ≥ longestPath then .error .nameTooLong
  else
    let last := if Path.endsWithSlash path then [Path.here] else []
    tree.walk mostLinks (origin working path) (Path.names path ++ last)

/-- What a path leads to. -/
def resolve (tree : FileTree) (working : Place) (path : Bytes) : Except SystemError Node := do
  match tree.nodeAt (← tree.reach working path) with
  | some node => .ok node
  | none => .error .missing

/-- Looks for a program in directories one by one. `met` tells whether something of that name was
met that is no tool. -/
def search (tree : FileTree) (working : Place) (name : Bytes) (met : Bool) :
    List Bytes → Except SystemError Tool
  | [] => .error (if met then .forbidden else .missing)
  | directory :: later =>
    match tree.resolve working (directory ++ Ascii.slash :: name) with
    | .ok (.tool tool) => .ok tool
    | .ok _ => tree.search working name true later
    | .error cause =>
      if cause = .missing ∨ cause = .notDirectory then tree.search working name met later
      else .error cause

/-- The place of a new file: the directory it is to stand in must be there. -/
def newPlace (tree : FileTree) (working : Place) (path : Bytes) : Except SystemError Place := do
  match (Path.names path).getLast? with
  | none => .error .isDirectory
  | some name =>
    let here ← tree.walk mostLinks (origin working path) ((Path.names path).dropLast ++ [Path.here])
    if Path.endsWithSlash path then .error .isDirectory
    else if name.length > longestName then .error .nameTooLong
    else return here ++ [name]

/-- The tool a path leads to. -/
def toolAt (tree : FileTree) (working : Place) (path : Bytes) : Except SystemError Tool := do
  match ← tree.resolve working path with
  | .tool tool => .ok tool
  | _ => .error .forbidden

/-- A program is looked up as a path if there is a slash in it, and on the search path otherwise. -/
def locate (tree : FileTree) (program : Bytes) : Except SystemError Tool :=
  if program.contains Ascii.slash then tree.toolAt workingDirectory program
  else if program.isEmpty then .error .missing
  else if program.length > longestName then .error .nameTooLong
  else tree.search workingDirectory program false searchPath

end FileTree

end ContainerLaunch.Rehearsal
