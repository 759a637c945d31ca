import ConfigLayers.Tree.Basic
import ConfigLayers.Toml.Basic

/-!
# Trees from TOML values

Tables become trees, which collect their bindings in key order, and arrays lists. Dates, times and
floats without a finite value become strings, so that every other value is a scalar leaf.
-/

namespace ConfigLayers

def Node.ofFloat : Extended → Node
  | .finite x => .number (.double x)
  | x => .string (x.text .plain)

mutual
/-- The node of a TOML value. -/
def Node.ofToml : Toml.Value → Node
  | .string s => .string s
  | .integer n => .number (.int n)
  | .float x => Node.ofFloat x
  | .boolean b => .bool b
  | .moment m => .string m.text
  | .array items => .list (Node.itemsOfToml items)
  | .table entries => .tree (.ofEntries (Keyed.ofList (Node.entriesOfToml entries)))
termination_by structural value => value
def Node.itemsOfToml : List Toml.Value → List Node
  | [] => []
  | item :: items => Node.ofToml item :: Node.itemsOfToml items
termination_by structural items => items
def Node.entriesOfToml : List (String × Toml.Value) → List (String × Node)
  | [] => []
  | (key, value) :: entries => (key, Node.ofToml value) :: Node.entriesOfToml entries
termination_by structural entries => entries
end

def Tree.ofToml (entries : List (String × Toml.Value)) : Tree :=
  .ofEntries (Keyed.ofList (Node.entriesOfToml entries))

end ConfigLayers
