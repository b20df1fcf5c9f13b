import ContainerLaunch.Text.Basic

/-! # Reports of failures

A report says what failed and then, cause by cause, why. A single cause is set in four blanks;
several are numbered, each number set right in five columns. The further lines of a cause keep the
column of its first.
-/

namespace ContainerLaunch

structure Report where
  outermost : Text
  causes : List Text
  deriving DecidableEq, Repr

namespace Report

def blanks (width : Nat) : Text := List.replicate width ' '

/-- Sets every further line in by `width` blanks, an empty one too. -/
def indent (width : Nat) (text : Text) : Text :=
  text.flatMap fun c ↦ if c = '\n' then c :: blanks width else [c]

def singleWidth : Nat := 4

def numberedWidth : Nat := 7

def numberedCause (cause : Text) (number : Nat) : Text :=
  ['\n'] ++ (Text.decimal number).leftpad 5 ' ' ++ ": ".toList ++ indent numberedWidth cause

/-- The section after the outermost text. -/
def explanation : List Text → Text
  | [] => []
  | [cause] =>
    "\n\nCaused by:\n".toList ++ blanks singleWidth ++ indent singleWidth cause
  | causes =>
    "\n\nCaused by:".toList ++ (causes.zipIdx.map fun (cause, n) ↦ numberedCause cause n).flatten

/-- The report without a backtrace, which would follow as a section of its own where one is asked
for. -/
def written (report : Report) : Text := report.outermost ++ explanation report.causes

/-- What failed and the causes, outermost first. -/
def chain (report : Report) : List Text := report.outermost :: report.causes

/-- The same failure seen from the outside: the former outermost text becomes the first cause. -/
def within (context : Text) (report : Report) : Report := ⟨context, report.chain⟩

/-- Takes back `indent`: of the characters after each newline the first `width` are left out.
`skipped` are still to be left out at the beginning. -/
def unindent (width : Nat) : (skipped : Nat) → Text → Text
  | _, [] => []
  | skipped + 1, _ :: rest => unindent width skipped rest
  | 0, c :: rest => c :: unindent width (if c = '\n' then width else 0) rest

end Report

end ContainerLaunch
