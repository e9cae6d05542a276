/-!
# Paths

A path is a start and a list of steps. Empty steps and steps to where one stands already do not
count, so a path has one written form.

## Contents

* `Path`, `Path.ofText`, `Path.text`: paths and their written form.
* `Path.join`: a step further.
-/

namespace CppIdioms.Files

/-- A path from the working directory, or from the root. -/
structure Path where
  rooted : Bool
  steps : List String
  deriving DecidableEq, Repr, Inhabited

namespace Path

/-- The path that a text denotes. -/
def ofText (text : String) : Path where
  rooted := text.toList.head? == some '/'
  steps := ((text.toList.splitOn '/').map String.ofList).filter fun s => s != "" && s != "."

/-- The written form of a path. -/
def text (p : Path) : String :=
  let steps := "/".intercalate p.steps
  if p.rooted then "/" ++ steps
  else if p.steps.isEmpty then "."
  else steps

/-- A path with one more step. -/
def join (p : Path) (name : String) : Path := { p with steps := p.steps ++ [name] }

end Path

end CppIdioms.Files
