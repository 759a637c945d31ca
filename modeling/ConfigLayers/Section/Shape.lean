import ConfigLayers.Coerce
import ConfigLayers.Tree.Inspect

/-!
# Shapes

A section is read by binding a JSON value to a shape. Integers have to fit their type and a double
never counts as one. A record binds from an object by the names of its fields, or from an array by
their places; members without a field are ignored.
-/

namespace ConfigLayers

inductive Bound where
  | integer (n : Int)
  | string (s : String)
  | boolean (b : Bool)
  | absent
  | present (value : Bound)
  | list (items : List Bound)
  | map (entries : List (String × Bound))
  | record (name : String) (fields : List (String × Bound))

instance : Inhabited Bound := ⟨.absent⟩

mutual
/-- What a section is bound to. -/
inductive Shape where
  | integer (type : IntType)
  | string
  | boolean
  | optional (shape : Shape)
  | list (item : Shape)
  | map (value : Shape)
  | record (name : String) (fields : Fields)
/-- The fields of a record in the order of their declaration, each with the value that it has when
it is missing, if it may be. -/
inductive Fields where
  | nil
  | cons (name : String) (shape : Shape) (default : Option Bound) (rest : Fields)
end

def Fields.count : Fields → Nat
  | nil => 0
  | cons _ _ _ rest => rest.count + 1

/-! ### Binding -/

inductive FieldResult where
  | bound (value : Bound)
  | failed (m : Mismatch)
  | missing (default : Option Bound)

/-- The mismatch of the field with this name, if its value has one. -/
def mismatchAt? (key : String) : List (String × FieldResult) → Option Mismatch
  | [] => none
  | (name, .failed m) :: results => if name = key then some m else mismatchAt? key results
  | _ :: results => mismatchAt? key results

/-- The record with these fields; the first one without a value or a default is missing. -/
def closeRecord : List (String × FieldResult) → Except Mismatch (List (String × Bound))
  | [] => .ok []
  | (name, .bound value) :: results | (name, .missing (some value)) :: results =>
    (closeRecord results).map ((name, value) :: ·)
  | (name, .missing none) :: _ => .error (.missing name)
  | (_, .failed m) :: _ => .error m

/-- Binds every item, up to the first that does not fit. -/
def bindItems (bindItem : Json → Except Mismatch Bound) :
    List Json → Except Mismatch (List Bound)
  | [] => .ok []
  | item :: items => do
    let value ← bindItem item
    let values ← bindItems bindItem items
    return value :: values

/-- Binds the value of every member, up to the first that does not fit. -/
def bindMembers (bindValue : Json → Except Mismatch Bound) :
    List (String × Json) → Except Mismatch (List (String × Bound))
  | [] => .ok []
  | (key, value) :: members => do
    let bound ← bindValue value
    let rest ← bindMembers bindValue members
    return (key, bound) :: rest

mutual
/-- Binds a value to a shape. -/
def Shape.bind : Shape → Json → Except Mismatch Bound
  | .integer type, value =>
    match value with
    | .number (.int n) =>
      if type.least ≤ n ∧ n ≤ type.greatest then .ok (.integer n) else .error (.range n type.name)
    | other => .error (.sort other type.name)
  | .string, value =>
    match value with
    | .string s => .ok (.string s)
    | other => .error (.sort other "a string")
  | .boolean, value =>
    match value with
    | .bool b => .ok (.boolean b)
    | other => .error (.sort other "a boolean")
  | .optional shape, value =>
    match value with
    | .null => .ok .absent
    | other => (shape.bind other).map .present
  | .list item, value =>
    match value with
    | .array items => (bindItems item.bind items).map .list
    | other => .error (.sort other "a sequence")
  | .map shape, value =>
    match value with
    | .object members => (bindMembers shape.bind members).map .map
    | other => .error (.sort other "a map")
  | .record name fields, value =>
    match value with
    | .object members =>
      let results := fields.bindNamed members
      match members.findSome? fun member => mismatchAt? member.1 results with
      | some m => .error m
      | none => (closeRecord results).map (.record name)
    | .array items =>
      (fields.bindPlaced name fields.count 0 items).map (.record name)
    | other => .error (.sort other ("struct " ++ name))
termination_by structural shape => shape
def Fields.bindNamed : Fields → List (String × Json) → List (String × FieldResult)
  | .nil, _ => []
  | .cons name shape default rest, members =>
    (name, match Keyed.get? name members with
      | none => .missing default
      | some value =>
        match shape.bind value with
        | .ok bound => .bound bound
        | .error m => .failed m) :: rest.bindNamed members
termination_by structural fields => fields
def Fields.bindPlaced (record : String) (count : Nat) :
    Fields → Nat → List Json → Except Mismatch (List (String × Bound))
  | .nil, place, items => if items = [] then .ok [] else .error (.tooLong (place + items.length))
  | .cons name shape default rest, place, items =>
    match items with
    | item :: items => do
      let value ← shape.bind item
      let values ← rest.bindPlaced record count (place + 1) items
      return (name, value) :: values
    | [] =>
      match default with
      | some value => (rest.bindPlaced record count place []).map ((name, value) :: ·)
      | none => .error (.tooShort place record count)
termination_by structural fields => fields
end

/-! ### Bound values in log lines -/

mutual
/-- The form of a bound value in log lines. -/
def Bound.inspect : Bound → String
  | .integer n => Inspect.inspect n
  | .string s => Inspect.inspect s
  | .boolean b => Inspect.inspect b
  | .absent => "None"
  | .present value => Inspect.named "Some" value.inspect
  | .list items => Inspect.bracketed '[' ']' (Bound.inspectItems items)
  | .map entries => Inspect.bracketed '{' '}' (Bound.inspectEntries entries)
  | .record name fields => Inspect.record name (Bound.inspectFields fields)
termination_by structural value => value
def Bound.inspectItems : List Bound → List String
  | [] => []
  | item :: items => item.inspect :: Bound.inspectItems items
termination_by structural items => items
def Bound.inspectEntries : List (String × Bound) → List String
  | [] => []
  | (key, value) :: entries =>
    (Inspect.inspect key ++ ": " ++ value.inspect) :: Bound.inspectEntries entries
termination_by structural entries => entries
def Bound.inspectFields : List (String × Bound) → List (String × String)
  | [] => []
  | (name, value) :: fields => (name, value.inspect) :: Bound.inspectFields fields
termination_by structural fields => fields
end

instance : Inspect Bound := ⟨Bound.inspect⟩

end ConfigLayers
