import ConfigLayers.Text.Blank

/-!
# Arguments

A token of the command line is bare, an assignment, or malformed. Outer white space never counts.
-/

namespace ConfigLayers

/-- A token of the command line, trimmed. -/
inductive Argument where
  /-- Neither a hyphen nor an equals sign. -/
  | bare (token : String)
  /-- A name, an equals sign and a value, after any number of hyphens. -/
  | assignment (name value : String)
  /-- A hyphen, but no equals sign. -/
  | malformed (token : String)
  deriving DecidableEq

namespace Argument

/-- The name and the value around the first equals sign. -/
def splitAssignment? (cs : List Char) : Option (String × String) :=
  match cs.dropWhile (· ≠ '=') with
  | [] => none
  | _ :: value => some (String.ofList (cs.takeWhile (· ≠ '=')), String.ofList value)

def ofTrimmed (cs : List Char) : Argument :=
  if '=' ∉ cs ∧ '-' ∉ cs then bare (String.ofList cs)
  else match splitAssignment? (cs.dropWhile (· = '-')) with
    | some (name, value) => assignment name value
    | none => malformed (String.ofList cs)

def classify (raw : String) : Argument := ofTrimmed (Text.trimChars raw.toList)

end Argument

end ConfigLayers
