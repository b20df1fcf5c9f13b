import ContainerLaunch.Text.Ascii
import ContainerLaunch.Text.Utf8

/-! # Options of tools

How tools read their arguments. After one hyphen stand letters, several together if they like;
after two stands a word, which may be cut short as long as it is clear, with its value after an
equals sign. Options and operands may stand in any order, and two hyphens alone end the options.
-/

namespace ContainerLaunch.Rehearsal

/-- Whether an option has a value. -/
inductive Valued where
  | never
  | always
  /-- Only if the value stands in the same argument. -/
  | attached
  deriving DecidableEq, Repr

/-- The options of a tool: its letters, and its words with the letter each stands for. -/
structure Options where
  letters : List (UInt8 × Valued)
  words : List (Bytes × Valued × UInt8)

namespace Options

/-- What an argument turned out to be. -/
inductive Item where
  | option (letter : UInt8) (value : Bytes)
  | operand (bytes : Bytes)
  deriving DecidableEq, Repr

/-- Why arguments could not be read. -/
inductive Misuse where
  | unknownLetter (letter : UInt8)
  | letterWithoutValue (letter : UInt8)
  | unknownWord (word : Bytes)
  | unclearWord (word : Bytes) (candidates : List Bytes)
  | wordWithoutValue (word : Bytes)
  | wordWithValue (word : Bytes)
  deriving DecidableEq, Repr

namespace Misuse

def option (word : Bytes) : Bytes :=
  Utf8.ofString "option '--" ++ word ++ [Ascii.quote]

def message : Misuse → Bytes
  | unknownLetter letter => Utf8.ofString "invalid option -- '" ++ [letter, Ascii.quote]
  | letterWithoutValue letter =>
    Utf8.ofString "option requires an argument -- '" ++ [letter, Ascii.quote]
  | unknownWord word => Utf8.ofString "unrecognized " ++ option word
  | unclearWord word candidates =>
    option word ++ Utf8.ofString " is ambiguous; possibilities:" ++
      candidates.flatMap fun candidate ↦ Utf8.ofString " '--" ++ candidate ++ [Ascii.quote]
  | wordWithoutValue word => option word ++ Utf8.ofString " requires an argument"
  | wordWithValue word => option word ++ Utf8.ofString " doesn't allow an argument"

end Misuse

/-- What reading has come to so far. -/
structure Reading where
  items : List Item
  misuse : Option Misuse

namespace Reading

def after (item : Item) (reading : Reading) : Reading := ⟨item :: reading.items, reading.misuse⟩

def failed (misuse : Misuse) : Reading := ⟨[], some misuse⟩

/-- Nothing is read after a misuse. -/
def followedBy (reading later : Reading) : Reading :=
  if reading.misuse.isSome then reading
  else ⟨reading.items ++ later.items, later.misuse⟩

end Reading

/-- The entry of a word, or of the only words that begin with it. -/
def find (options : Options) (word : Bytes) : Except (List Bytes) (Bytes × Valued × UInt8) :=
  match options.words.find? (·.1 = word) with
  | some entry => .ok entry
  | none =>
    match options.words.filter (word.isPrefixOf ·.1) with
    | [] => .error []
    | entry :: others =>
      if others.all (·.2 = entry.2) then .ok entry
      else .error ((entry :: others).map (·.1))

/-- Reads letters after one hyphen. The result tells of a last letter whose value is yet to come. -/
def readLetters (options : Options) : Bytes → Reading × Option UInt8
  | [] => (⟨[], none⟩, none)
  | letter :: rest =>
    match options.letters.lookup letter with
    | none => (.failed (.unknownLetter letter), none)
    | some .never =>
      let (reading, awaited) := options.readLetters rest
      (reading.after (.option letter []), awaited)
    | some .attached => (⟨[.option letter rest], none⟩, none)
    | some .always =>
      if rest.isEmpty then (⟨[], none⟩, some letter) else (⟨[.option letter rest], none⟩, none)

/-- Reads what stands after two hyphens. -/
def readWord (options : Options) (given : Bytes) : Reading × Option (Bytes × UInt8) :=
  let word := given.takeWhile (· != Ascii.equalsSign)
  let value := given.drop (word.length + 1)
  let hasValue := word.length < given.length
  match options.find word with
  | .error [] => (.failed (.unknownWord given), none)
  | .error candidates => (.failed (.unclearWord given candidates), none)
  | .ok (name, valued, letter) =>
    if valued = .never ∧ hasValue then (.failed (.wordWithValue name), none)
    else if valued = .always ∧ !hasValue then (⟨[], none⟩, some (name, letter))
    else (⟨[.option letter value], none⟩, none)

/-- Reads arguments up to the first misuse. -/
def read (options : Options) : List Bytes → Reading
  | [] => ⟨[], none⟩
  | argument :: later =>
    match argument with
    | 0x2D :: 0x2D :: [] => ⟨later.map .operand, none⟩
    | 0x2D :: 0x2D :: given =>
      match options.readWord given with
      | (reading, none) => reading.followedBy (options.read later)
      | (_, some (name, letter)) =>
        match later with
        | [] => .failed (.wordWithoutValue name)
        | value :: others => (options.read others).after (.option letter value)
    | 0x2D :: first :: letters =>
      match options.readLetters (first :: letters) with
      | (reading, none) => reading.followedBy (options.read later)
      | (reading, some letter) =>
        reading.followedBy <|
          match later with
          | [] => .failed (.letterWithoutValue letter)
          | value :: others => (options.read others).after (.option letter value)
    | _ => (options.read later).after (.operand argument)

end Options

end ContainerLaunch.Rehearsal
