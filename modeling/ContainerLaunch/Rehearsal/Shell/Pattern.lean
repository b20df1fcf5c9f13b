import ContainerLaunch.Rehearsal.Shell.Grammar

/-! # Patterns of the shell

A star stands for any bytes, a question mark for one byte, and brackets for one byte out of a set. A
byte after a backslash stands for itself.
-/

namespace ContainerLaunch.Rehearsal.Shell

namespace Pattern

/-- One byte or a range of them between brackets, or a named class. -/
inductive Member where
  | range (first last : UInt8)
  | named (test : UInt8 → Bool)

def Member.holds (b : UInt8) : Member → Bool
  | .range first last => first ≤ b && b ≤ last
  | .named test => test b

inductive Atom where
  | byte (b : UInt8)
  | any
  | star
  | oneOf (inverted : Bool) (members : List Member)

def Atom.holds (b : UInt8) : Atom → Bool
  | .byte c => c = b
  | .any | .star => true
  | .oneOf inverted members => members.any (·.holds b) != inverted

/-- Classes of bytes by name. -/
def classes : List (String × (UInt8 → Bool)) :=
  [("alnum", fun b ↦ Ascii.isLetter b || Ascii.isDigit b), ("alpha", Ascii.isLetter),
    ("blank", fun b ↦ b = Ascii.blank || b = Ascii.tab),
    ("cntrl", fun b ↦ b < 0x20 || b = 0x7F), ("digit", Ascii.isDigit),
    ("graph", fun b ↦ 0x20 < b && b < 0x7F), ("lower", Ascii.isLower),
    ("print", fun b ↦ 0x20 ≤ b && b < 0x7F),
    ("punct", fun b ↦ 0x20 < b && b < 0x7F && !(Ascii.isLetter b || Ascii.isDigit b)),
    ("space", Ascii.isSpace), ("upper", Ascii.isUpper),
    ("xdigit", fun b ↦ (Ascii.hexValue? b).isSome)]

/-- A class named between colons, with what comes after it. -/
def namedClass? (pattern : Bytes) : Option ((UInt8 → Bool) × Bytes) :=
  classes.findSome? fun (name, test) ↦
    let written := Utf8.ofString (":" ++ name ++ ":]")
    if written.isPrefixOf pattern then some (test, pattern.drop written.length) else none

def openBracket : UInt8 := 0x5B

def closeBracket : UInt8 := 0x5D

/-- The byte in front, without a backslash before it. -/
def plainByte : Bytes → Option (UInt8 × Bytes)
  | [] => none
  | b :: later =>
    if b ≠ Ascii.backslash then some (b, later)
    else match later with
      | c :: rest => some (c, rest)
      | [] => none

/-- What stands between brackets, of which the opening one has been taken. The first byte is a
member whatever it is. -/
def members : Nat → Bool → Bytes → Option (List Member × Bytes)
  | 0, _, _ => none
  | fuel + 1, isFirst, pattern =>
    let goOn (member : Member) (rest : Bytes) : Option (List Member × Bytes) :=
      (members fuel false rest).map fun (others, rest) ↦ (member :: others, rest)
    match pattern with
    | [] => none
    | b :: later =>
      if b = closeBracket && !isFirst then some ([], later)
      else match if b = openBracket then namedClass? later else none with
        | some (test, rest) => goOn (.named test) rest
        | none =>
          match plainByte pattern with
          | none => none
          | some (first, rest) =>
            if rest.head? = some Ascii.hyphen && rest[1]? ≠ some closeBracket then
              match plainByte (rest.drop 1) with
              | none => none
              | some (last, rest) => goOn (.range first last) rest
            else goOn (.range first first) rest

/-- A set between brackets, which may be inverted. -/
def set? (pattern : Bytes) : Option (Atom × Bytes) :=
  let inverted := pattern.head? = some 0x21
  let within := if inverted then pattern.drop 1 else pattern
  (members (within.length + 1) true within).map fun (members, rest) ↦
    (.oneOf inverted members, rest)

/-- The atom in front. A bracket that is never closed stands for itself. -/
def atom (first : UInt8) (later : Bytes) : Atom × Bytes :=
  match Char.ofNat first.toNat with
  | '*' => (.star, later)
  | '?' => (.any, later)
  | '\\' =>
    match later with
    | b :: rest => (.byte b, rest)
    | [] => (.byte first, [])
  | '[' => (set? later).getD (.byte first, later)
  | _ => (.byte first, later)

def atoms : Nat → Bytes → List Atom
  | fuel + 1, first :: later =>
    let (found, rest) := atom first later
    found :: atoms fuel rest
  | _, _ => []

def atomsMatch : List Atom → Bytes → Bool
  | [], bytes => bytes.isEmpty
  | .star :: atoms, bytes =>
    atomsMatch atoms bytes || match bytes with
      | [] => false
      | _ :: rest => atomsMatch (.star :: atoms) rest
  | atom :: atoms, bytes =>
    match bytes with
    | [] => false
    | b :: rest => atom.holds b && atomsMatch atoms rest
termination_by atoms bytes => (atoms.length, bytes.length)

end Pattern

def matchesPattern (pattern bytes : Bytes) : Bool :=
  Pattern.atomsMatch (Pattern.atoms pattern.length pattern) bytes

end ContainerLaunch.Rehearsal.Shell
