import ContainerLaunch.Text.Ascii

/-! # Paths

A path is a byte string; the names on it stand between slashes.
-/

namespace ContainerLaunch.Path

/-- The name of a directory within itself. -/
def here : Bytes := [Ascii.dot]

/-- The name within a directory of the one that holds it. -/
def above : Bytes := [Ascii.dot, Ascii.dot]

def isAbsolute (path : Bytes) : Bool := path.head? == some Ascii.slash

def endsWithSlash (path : Bytes) : Bool := path.getLast? == some Ascii.slash

/-- Slashes next to each other count as one. -/
def names (path : Bytes) : List Bytes :=
  (splitAtEvery Ascii.slash path).filter (!·.isEmpty)

/-- The last name on a path, passing over single dots; a root has none, and neither has a path that
ends with two dots. -/
def lastName? (path : Bytes) : Option Bytes :=
  ((names path).filter (· != here)).getLast?.filter (· != above)

end ContainerLaunch.Path
