import ContainerLaunch.Rehearsal.Shell.Commands.Options
import ContainerLaunch.Rehearsal.Shell.Redirections

/-! # Commands about places

The shell's own commands about its working directory, about the permissions of new files and about
limits.
-/

namespace ContainerLaunch.Rehearsal.Shell.Builtin

open Run

/-- A path from the root to what a path leads to, with its dots and double dots taken as names are
written. -/
def normalized (directory path : Bytes) : Bytes :=
  let keepsTwo (path : Bytes) : Bool :=
    (path.take 2).all (· = Ascii.slash) && path.length ≥ 2 && path[2]? ≠ some Ascii.slash
  let base := if Path.isAbsolute path then [] else Path.names directory
  let root := if keepsTwo (if Path.isAbsolute path then path else directory) then said "//"
    else said "/"
  let names := (Path.names path).foldl (fun names name ↦
    if name = Path.here then names
    else if name = Path.above then names.dropLast
    else names ++ [name]) base
  root ++ [Ascii.slash].intercalate names

/-- Makes the directory at a path the working directory if there is one. -/
def enter (physical : Bool) (path : Bytes) : Run Bool := do
  let state ← get
  let whole := normalized state.process.directory path
  let tree := state.world.tree
  match tree.resolve state.process.working (if physical then path else whole),
      tree.reach state.process.working (if physical then path else whole) with
  | .ok .directory, .ok place =>
    let directory :=
      if physical then Ascii.slash :: [Ascii.slash].intercalate place else whole
    assignWith (said "OLDPWD") (some state.process.directory) true false
    assignWith (said "PWD") (some directory) true false
    changeProcess ({ · with working := place, directory := directory })
    return true
  | _, _ => return false

/-- The directories in which a name is looked for, the nearest ones first. -/
def candidates (path : Bytes) : Run (List (Bytes × Bool)) := do
  let first := (Path.names path).headD []
  if Path.isAbsolute path || first = Path.here || first = Path.above then return [(path, false)]
  else
    let list := splitAtEvery Ascii.colon (← value "CDPATH")
    let found := list.map fun directory ↦
      if directory.isEmpty then (path, false) else (directory ++ Ascii.slash :: path, true)
    return found ++ [(path, false)]

/-- Enters the first of some directories that is there. -/
def enterFirst (physical : Bool) (path : Bytes) (speaks : Bool) : List (Bytes × Bool) → Run Nat
  | [] => fail (said "can't cd to " ++ path)
  | (candidate, isFar) :: later => do
    if ← enter physical candidate then
      if speaks || isFar then print ((← process).directory ++ [Ascii.newline])
      return 0
    else enterFirst physical path speaks later

def changeDirectory (arguments : List Bytes) : Run Nat := do
  let options ← options "LP" "" arguments
  let physical := (options.found.getLast?.map (·.1)) = some 'P'
  match options.operands with
  | [] =>
    let home := (← value? (said "HOME")).getD []
    if home.isEmpty then return 0 else enterFirst physical home false (← candidates home)
  | path :: _ =>
    let isBack := path = [Ascii.hyphen]
    let path ← if isBack then value "OLDPWD" else pure path
    let path := if path.isEmpty then Path.here else path
    enterFirst physical path isBack (← candidates path)

def printDirectory (arguments : List Bytes) : Run Nat := do
  let options ← options "LP" "" arguments
  let process ← process
  let physical := Ascii.slash :: [Ascii.slash].intercalate process.working
  let isPhysical := (options.found.getLast?.map (·.1)) = some 'P'
  print ((if isPhysical then physical else process.directory) ++ [Ascii.newline])
  return 0

/-! ## Permissions of new files -/

def permissions (mask : Nat) (place : Nat) : Bytes :=
  let taken := mask / Nat.pow 8 place % 8
  let letter (bit : Nat) (letter : String) : Bytes :=
    if taken / bit % 2 = 0 then said letter else []
  letter 4 "r" ++ letter 2 "w" ++ letter 1 "x"

def octalNumber? (bytes : Bytes) : Option Nat :=
  let (n, rest) := Numbers.digits 8 bytes
  if rest.isEmpty then some n else none

/-- The bits that letters for users stand for, one bit for each of them; none stand for all. -/
def usersOf (letters : Bytes) : Nat :=
  let has (letter : String) : Bool := (said letter).any letters.contains
  let bit (letter : String) (value : Nat) : Nat := if has letter || has "a" then value else 0
  if letters.isEmpty then 0o111 else bit "u" 0o100 + bit "g" 0o10 + bit "o" 1

/-- The permissions that a letter stands for, seen from the permissions that there were. -/
def permissionOf (before : Nat) (letter : UInt8) : Nat :=
  match Char.ofNat letter.toNat with
  | 'r' => 4
  | 'w' => 2
  | 'x' => 1
  | 'X' => if before &&& 0o111 = 0 then 0 else 1
  | 'u' => before / 0o100 % 8
  | 'g' => before / 0o10 % 8
  | 'o' => before % 8
  | _ => 0

/-- Carries out the signs for the same users, each with the letters after it. -/
def changeFor (before users : Nat) : Nat → Nat → Bytes → Nat × Bytes
  | fuel + 1, permissions, sign :: later =>
    if !(said "=+-").contains sign then (permissions, sign :: later)
    else
      let letters := later.takeWhile (said "rwxXsugo").contains
      let wanted := letters.foldl (fun found letter ↦ found ||| permissionOf before letter) 0
      let bits := wanted * users
      let others := permissions &&& (0o777 ^^^ (users * 7))
      let changed :=
        if sign = 0x2B then permissions ||| bits
        else if sign = Ascii.hyphen then permissions &&& (0o777 ^^^ bits)
        else others ||| bits
      changeFor before users fuel changed (later.drop letters.length)
  | _, permissions, rest => (permissions, rest)

/-- The permissions after changes that stand between commas. -/
def symbolicMode? (before : Nat) : Nat → Nat → Bytes → Option Nat
  | _, permissions, [] => some permissions
  | 0, _, _ => none
  | fuel + 1, permissions, mode =>
    let letters := mode.takeWhile (said "augo").contains
    match mode.drop letters.length with
    | [] => some permissions
    | sign :: later =>
      if !(said "=+-").contains sign then none
      else
        match changeFor before (usersOf letters) (mode.length + 1) permissions (sign :: later) with
        | (changed, []) => some changed
        | (changed, next :: rest) =>
          if next = 0x2C then symbolicMode? before fuel changed rest else none

def fileMask (arguments : List Bytes) : Run Nat := do
  let options ← options "S" "" arguments
  match options.operands with
  | [] =>
    let mask := (← process).mask
    if options.has 'S' then
      print (said "u=" ++ permissions mask 2 ++ said ",g=" ++ permissions mask 1 ++ said ",o=" ++
        permissions mask 0 ++ [Ascii.newline])
    else
      let digits := Utf8.encode (Nat.toDigits 8 mask)
      print (List.replicate (4 - digits.length) 0x30 ++ digits ++ [Ascii.newline])
    return 0
  | mode :: _ =>
    if mode.head?.any Ascii.isDigit then
      match octalNumber? mode with
      | some mask =>
        changeProcess ({ · with mask := mask % 0o1000 })
        return 0
      | none => badNumber mode
    else
      let before := 0o777 - (← process).mask
      match symbolicMode? before (mode.length + 1) before mode with
      | some permissions =>
        changeProcess ({ · with mask := 0o777 - permissions })
        return 0
      | none => fail (said "Illegal mode: " ++ mode)

/-! ## Limits -/

/-- The letters of limits, with their values at first. -/
def firstLimits : List (Char × String) :=
  [('t', "unlimited"), ('f', "unlimited"), ('d', "unlimited"), ('s', "8192"), ('c', "0"),
    ('m', "unlimited"), ('l', "8192"), ('p', "unlimited"), ('n', "1048576"), ('v', "unlimited"),
    ('w', "unlimited"), ('r', "0")]

def limit (arguments : List Bytes) : Run Nat := do
  let options ← options "HSatfdscmlpnvwr" "" arguments
  let letters := options.found.map (·.1)
  let letter := ((letters.filter fun letter ↦ !"HSa".toList.contains letter).getLast?).getD 'f'
  let key : UInt8 := .ofNat letter.toNat
  match options.operands with
  | [] =>
    let first := said ((firstLimits.lookup letter).getD "")
    print ((((← process).limits.lookup key).getD first) ++ [Ascii.newline])
    return 0
  | [value] =>
    if value = said "unlimited" || (!value.isEmpty && value.all Ascii.isDigit) then
      changeProcess fun process ↦
        { process with limits := (key, value) :: process.limits.filter (·.1 ≠ key) }
      return 0
    else fail (said "bad number")
  | _ => fail (said "too many arguments")

end ContainerLaunch.Rehearsal.Shell.Builtin
