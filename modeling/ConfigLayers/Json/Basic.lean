import ConfigLayers.Number
import ConfigLayers.Keyed

/-!
# JSON values

The values of a JSON text. The members of an object stand in ascending key order, each key once;
`Json.Ordered` says so at every depth.
-/

namespace ConfigLayers

inductive Json where
  | null
  | bool (b : Bool)
  | number (n : Number)
  | string (s : String)
  | array (items : List Json)
  | object (members : List (String × Json))
  deriving Inhabited

namespace Json

/-- The member of an object with the given key. -/
def member? (key : String) : Json → Option Json
  | object members => Keyed.get? key members
  | _ => none

mutual
/-- The keys of every object in the value ascend. -/
def Ordered : Json → Prop
  | array items => ItemsOrdered items
  | object members => Keyed.Ascending members ∧ MembersOrdered members
  | _ => True
termination_by structural value => value
def ItemsOrdered : List Json → Prop
  | [] => True
  | item :: items => item.Ordered ∧ ItemsOrdered items
termination_by structural items => items
def MembersOrdered : List (String × Json) → Prop
  | [] => True
  | (_, value) :: members => value.Ordered ∧ MembersOrdered members
termination_by structural members => members
end

end Json

end ConfigLayers
