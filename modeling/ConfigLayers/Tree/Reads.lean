import ConfigLayers.Tree.Paths
import ConfigLayers.Tree.Json
import ConfigLayers.Section.Shape
import ConfigLayers.Event

/-!
# Typed reads

Every read looks a node up and converts it. If there is no node or the conversion fails, the read
gives its default and warns, or, without a default, fails and reports the error.
-/

namespace ConfigLayers

abbrev Conversion (α : Type) := Node → Except FormatError α

namespace Conversion

def node : Conversion Node := .ok

def scalar {α : Type} (coerce : Coercion α) : Conversion α := fun node =>
  match node.text? with
  | some text => coerce text
  | none => .error (.notScalar node.kind)

def bindTo (shape : Shape) : Conversion Bound := fun node =>
  (shape.bind node.toJson).mapError .mismatch

end Conversion

/-- The result of a read that found no value: the default, or else the error. -/
def fallback {α : Type} [Inspect α] (path : String) (default : Option α) (error : Error) :
    Logged Event (Except Error α) :=
  match default with
  | some value =>
    let wrongFormat := match error with
      | .wrongFormat .. => true
      | _ => false
    ⟨.ok value, [.defaultUsed path wrongFormat (inspect value)]⟩
  | none => ⟨.error error, [.readFailed error]⟩

namespace Tree

def fetch {α : Type} (t : Tree) (path : String) (convert : Conversion α) : Except Error α := do
  let node ← t.lookup path
  (convert node).mapError (.wrongFormat path)

/-- Reads the node at a dotted path with a default. -/
def read {α : Type} [Inspect α] (t : Tree) (path : String) (default : Option α)
    (convert : Conversion α) : Logged Event (Except Error α) :=
  match t.fetch path convert with
  | .ok value => pure (.ok value)
  | .error error => fallback path default error

def get (t : Tree) (path : String) (default : Option Node) : Logged Event (Except Error Node) :=
  t.read path default .node

def getAs {α : Type} [Inspect α] (t : Tree) (path : String) (default : Option α)
    (coerce : Coercion α) : Logged Event (Except Error α) :=
  t.read path default (.scalar coerce)

/-- Reads a node and binds it to a shape. -/
def getSection (t : Tree) (path : String) (default : Option Bound) (shape : Shape) :
    Logged Event (Except Error Bound) :=
  t.read path default (.bindTo shape)

end Tree

end ConfigLayers
