import ContainerLaunch.Rehearsal.Shell.Pattern

/-! # Fields

A word becomes any number of fields: what stands for something else is split where the separators
tell, and fields that are patterns become the paths they match.
-/

namespace ContainerLaunch.Rehearsal.Shell

/-- Something in the expansion of a word. -/
inductive Mark where
  | byte (b : UInt8) (quoted : Bool)
  /-- The end of a parameter that is followed by another one. -/
  | boundary
  /-- Quotes, which make a field even if they hold nothing. -/
  | quotes
  deriving DecidableEq, Repr

/-- Where a part of an expansion may be split. -/
inductive Splitting where
  | nowhere
  | atBoundaries
  | atSeparators
  deriving DecidableEq, Repr

structure Segment where
  marks : List Mark
  splitting : Splitting

abbrev Field := List Mark

namespace Segment

def ofBytes (quoted : Bool) (splitting : Splitting) (bytes : Bytes) : Segment :=
  ⟨bytes.map (.byte · quoted), splitting⟩

end Segment

namespace Field

/-- The bytes of a field without its quotes. -/
def bytes (field : Field) : Bytes :=
  field.filterMap fun mark ↦ match mark with
    | .byte b _ => some b
    | .boundary | .quotes => none

/-- The field as a pattern, in which backslashes stand for its quotes. -/
def pattern (field : Field) : Bytes :=
  field.flatMap fun mark ↦ match mark with
    | .byte b true => [Ascii.backslash, b]
    | .byte b false => [b]
    | .boundary | .quotes => []

end Field

namespace Splitting

/-- Separators: those that are white space and may come several at a time, and all of them. -/
structure Separators where
  blanks : Bytes
  all : Bytes

/-- The separators that a value of the variable for them stands for. -/
def Separators.ofValue (value : Option Bytes) : Separators :=
  let blanks := [Ascii.blank, Ascii.tab, Ascii.newline]
  ⟨blanks, value.getD blanks⟩

/-- How far the splitting has come. -/
structure Progress where
  /-- The latest first. -/
  fields : List Field := []
  /-- The field that has been begun, the latest mark first. -/
  field : Field := []
  /-- A separator that is white space has just come. -/
  afterBlank : Bool := false
  /-- The last part was split at boundaries alone. -/
  atBoundaries : Bool := false
  /-- How many more fields there may be before the last one takes all that is left. -/
  left : Option Nat := none
  /-- What may have to be taken off the end of the last field. -/
  loose : Option Nat := none

namespace Progress

def finish (progress : Progress) : Progress :=
  { progress with fields := progress.field.reverse :: progress.fields, field := [] }

/-- Goes on with a mark of the last field, from which white space at the end is taken off. -/
def feedLast (progress : Progress) (mark : Mark) (isBlank isSeparator : Bool) : Progress :=
  let length := progress.field.length
  let next := { progress with field := mark :: progress.field }
  if isBlank then { next with loose := progress.loose.or (some length) }
  else if isSeparator && progress.afterBlank then { next with afterBlank := false }
  else { next with loose := none, afterBlank := false }

/-- Goes on with a mark in a part that may be split. -/
def feed (separators : Separators) (onlyBoundaries joins : Bool) (progress : Progress)
    (mark : Mark) : Progress :=
  let isSeparator := match mark with
    | .byte b _ => !onlyBoundaries && separators.all.contains b
    | .boundary => true
    | .quotes => false
  let isBlank := isSeparator && match mark with
    | .byte b _ => separators.blanks.contains b
    | _ => true
  if progress.left = some 0 then progress.feedLast mark isBlank isSeparator
  else if progress.afterBlank && isBlank then { progress with field := [] }
  else if progress.afterBlank && isSeparator then { progress with field := [], afterBlank := false }
  else if !isSeparator then
    { progress with field := mark :: progress.field, afterBlank := false }
  else
    let afterBlank := if joins then progress.afterBlank else isBlank
    if progress.field.isEmpty && afterBlank then { progress with afterBlank := false }
    else
      match progress.left with
      | some 1 =>
        { progress with
          left := some 0, afterBlank := afterBlank, loose := some progress.field.length
          field := mark :: progress.field }
      | left => { progress.finish with left := left.map (· - 1), afterBlank := afterBlank }

def feedSegment (separators : Separators) (progress : Progress) (segment : Segment) : Progress :=
  match segment.splitting with
  | .nowhere => { progress with field := segment.marks.reverse ++ progress.field }
  | splitting =>
    let onlyBoundaries := splitting = .atBoundaries
    let start := { progress with afterBlank := false, atBoundaries := onlyBoundaries }
    segment.marks.foldl
      (feed separators onlyBoundaries (progress.atBoundaries || onlyBoundaries)) start

/-- The fields, with the one that has been begun if there is anything to it. -/
def result (progress : Progress) : List Field :=
  let field := match progress.loose with
    | some length => progress.field.drop (progress.field.length - length)
    | none => progress.field
  let last := if field.isEmpty && !progress.atBoundaries then [] else [field.reverse]
  progress.fields.reverse ++ last

end Progress

end Splitting

/-- The fields of an expansion. -/
def split (separators : Splitting.Separators) (segments : List Segment) : List Field :=
  (segments.foldl (Splitting.Progress.feedSegment separators) {}).result

end ContainerLaunch.Rehearsal.Shell
