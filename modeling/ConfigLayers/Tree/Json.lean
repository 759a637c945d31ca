import ConfigLayers.Tree.Basic
import ConfigLayers.Json.Basic

/-!
# Trees and JSON values

A tree and the JSON object of the same structure: objects correspond to trees and arrays to lists.
A tree collects the members of its object, so that its keys ascend whatever their order was.
-/

namespace ConfigLayers

mutual
/-- The JSON value of a node. -/
def Node.toJson : Node → Json
  | .null => .null
  | .bool b => .bool b
  | .number n => .number n
  | .string s => .string s
  | .list items => .array (Node.itemsToJson items)
  | .tree t => t.toJson
termination_by structural node => node
def Node.itemsToJson : List Node → List Json
  | [] => []
  | item :: items => item.toJson :: Node.itemsToJson items
termination_by structural items => items
def Tree.toJson : Tree → Json
  | .ofEntries es => .object (Tree.entriesToJson es)
termination_by structural t => t
def Tree.entriesToJson : List (String × Node) → List (String × Json)
  | [] => []
  | (key, node) :: es => (key, node.toJson) :: Tree.entriesToJson es
termination_by structural es => es
end

mutual
/-- The node of a JSON value. -/
def Node.ofJson : Json → Node
  | .null => .null
  | .bool b => .bool b
  | .number n => .number n
  | .string s => .string s
  | .array items => .list (Node.itemsOfJson items)
  | .object members => .tree (.ofEntries (Keyed.ofList (Node.entriesOfJson members)))
termination_by structural value => value
def Node.itemsOfJson : List Json → List Node
  | [] => []
  | item :: items => Node.ofJson item :: Node.itemsOfJson items
termination_by structural items => items
def Node.entriesOfJson : List (String × Json) → List (String × Node)
  | [] => []
  | (key, value) :: members => (key, Node.ofJson value) :: Node.entriesOfJson members
termination_by structural members => members
end

/-- The tree of a JSON object; other values have none. -/
def Tree.ofJson? : Json → Option Tree
  | .object members => some (.ofEntries (Keyed.ofList (Node.entriesOfJson members)))
  | _ => none

end ConfigLayers
