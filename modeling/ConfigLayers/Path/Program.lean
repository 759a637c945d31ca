import ConfigLayers.Path.Basic

/-!
# Where a program lives

The directory and the name of a program, from the path it was started by.
-/

namespace ConfigLayers

structure ProgramLocation where
  dir : String
  script : String
  deriving DecidableEq

namespace ProgramLocation

/-- The location of a program that was started by this path; no path counts as the empty one. -/
def ofProgram (program : Option String) : ProgramLocation :=
  let path := program.getD ""
  { dir := match Path.parent? path with
      | none | some "" => "."
      | some parent => parent
    script := (Path.fileName? path).getD "__main__" }

end ProgramLocation

end ConfigLayers
