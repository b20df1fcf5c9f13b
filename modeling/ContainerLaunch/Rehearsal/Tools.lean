import ContainerLaunch.Rehearsal.Concatenate
import ContainerLaunch.Rehearsal.Echo
import ContainerLaunch.Rehearsal.Search

/-! # Tools

What every tool but the shell does with its arguments.
-/

namespace ContainerLaunch.Rehearsal

/-- The performance of a tool. The shell is no such tool, since it starts others. -/
def perform (tool : Tool) (scene : Scene) (arguments : List Bytes) : Option Performance :=
  match tool with
  | .shell => none
  | .echo => some (scene.refused 0 [(.out, echo arguments)])
  | .succeed => some (scene.refused 0 [])
  | .fail => some (scene.refused 1 [])
  | .concatenate => some (concatenate scene arguments)
  | .search => some (search scene arguments)

end ContainerLaunch.Rehearsal
