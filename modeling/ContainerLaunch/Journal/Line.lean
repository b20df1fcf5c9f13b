import ContainerLaunch.Journal.Colour
import ContainerLaunch.Journal.Record

/-! # Lines of the journal

How a record is written: its level, the names of its activities, the message, the fields of the
event and those of the activities. A journal that keeps warnings alone knows of no activities.
-/

namespace ContainerLaunch.Journal

namespace Level

def label : Level → Text
  | debug => "DEBUG".toList
  | warning => " WARN".toList

def colour : Level → Nat
  | debug => 34
  | warning => 33

end Level

def bold : Nat := 1

def dim : Nat := 2

def italic : Nat := 3

def writtenField (style : Style) (field : Text × Text) : Text :=
  paint style italic field.1 ++ paint style dim ['='] ++ field.2

namespace Record

/-- The record on one line, without the newline at its end. The time of day, which a journal puts
before every line, is the clock's and says nothing of the record; lines are given here from the
level on. -/
def line (style : Style) (record : Record) : Text :=
  paint style record.event.level.colour record.event.level.label ++ [' '] ++
    (record.spans.flatMap fun span ↦ paint style bold span.name ++ [':']) ++
    (if record.spans.isEmpty then [] else [' ']) ++
    record.event.message ++
    (record.event.fields.flatMap fun field ↦ [' '] ++ writtenField style field) ++
    (record.spans.flatMap fun span ↦ [' '] ++ paint style dim (writtenField style span.field))

end Record

inductive Verbosity where
  | everything
  | warnings
  deriving DecidableEq, Repr

namespace Verbosity

def ofDebug (debug : Bool) : Verbosity := if debug then everything else warnings

/-- What is left of a record, if anything is. -/
def kept : Verbosity → Record → Option Record
  | everything, record => some record
  | warnings, record =>
    if record.event.level = .warning then some ⟨[], record.event⟩ else none

end Verbosity

end Journal

structure Journal where
  verbosity : Journal.Verbosity
  style : Journal.Style
  deriving DecidableEq, Repr

namespace Journal

/-- What a record adds to the journal: one line or nothing. -/
def entry (journal : Journal) (record : Record) : Text :=
  match journal.verbosity.kept record with
  | some kept => kept.line journal.style ++ ['\n']
  | none => []

end Journal

end ContainerLaunch
