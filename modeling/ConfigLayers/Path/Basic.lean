import ConfigLayers.Text.Segments

/-!
# Paths

Paths are texts and are printed as they were joined. Only to find their parts are they cut at
slashes: repeated slashes and inner `.` components are passed over then, a leading `.` and every
`..` are kept.
-/

namespace ConfigLayers.Path

inductive Component where
  | root
  | here
  | up
  | name (chars : List Char)
  deriving DecidableEq

/-- The component that a piece between slashes stands for; `leading` is the first piece of a
relative path. -/
def Component.ofPiece? (leading : Bool) (piece : List Char) : Option Component :=
  if piece = [] then none
  else if piece = ['.'] then (if leading then some here else none)
  else if piece = ['.', '.'] then some up
  else some (name piece)

/-- The components among the pieces, each with the length of the path up to its end. -/
def placed (leading : Bool) (start : Nat) : List (List Char) → List (Component × Nat)
  | [] => []
  | piece :: pieces =>
    let stop := start + piece.length
    ((Component.ofPiece? leading piece).map (·, stop)).toList ++ placed false (stop + 1) pieces

/-- The components of a path, each with the length of the path up to its end. -/
def componentsWithEnds : List Char → List (Component × Nat)
  | '/' :: cs => (.root, 1) :: placed false 1 (Text.pieces '/' cs)
  | cs => placed true 0 (Text.pieces '/' cs)

def components (path : String) : List Component := (componentsWithEnds path.toList).map Prod.fst

/-- The path without its last component: the text up to the end of the component before it. The
empty path and the root have no parent. -/
def parent? (path : String) : Option String :=
  match (componentsWithEnds path.toList).reverse with
  | [] | (.root, _) :: _ => none
  | [_] => some ""
  | _ :: (_, stop) :: _ => some (String.ofList (path.toList.take stop))

/-- The last component, if it is an ordinary name. -/
def fileName? (path : String) : Option String :=
  match (components path).getLast? with
  | some (.name chars) => some (String.ofList chars)
  | _ => none

/-- What follows the last dot of the file name; there has to be something before that dot. -/
def extension? (path : String) : Option String :=
  (fileName? path).bind fun name =>
    match (Text.pieces '.' name.toList).reverse with
    | last :: before =>
      if Text.glue '.' before.reverse = [] then none else some (String.ofList last)
    | [] => none

/-- The path of `name` below `dir`. An absolute name stands for itself, and so does any name below
the empty path. -/
def join (dir name : String) : String :=
  if name.toList.head? = some '/' ∨ dir = "" then name
  else if dir.toList.getLast? = some '/' then dir ++ name
  else dir ++ "/" ++ name

end ConfigLayers.Path
