import ConfigLayers.Tree.Basic
import ConfigLayers.Text.Quoted

/-!
# Values in log lines

`Inspect` gives the form in which log lines show a value: texts in quotes, lists in brackets, and
for a node its kind with the content in parentheses.
-/

namespace ConfigLayers

class Inspect (α : Type) where
  inspect : α → String

export Inspect (inspect)

namespace Inspect

def bracketed (left right : Char) (parts : List String) : String :=
  left.toString ++ ", ".intercalate parts ++ right.toString

def named (name content : String) : String := name ++ "(" ++ content ++ ")"

def braced (content : String) : String := bracketed '{' '}' [" " ++ content ++ " "]

def record (name : String) (fields : List (String × String)) : String :=
  name ++ " " ++ braced (", ".intercalate (fields.map fun f => f.1 ++ ": " ++ f.2))

instance : Inspect Bool := ⟨fun b => if b then "true" else "false"⟩

instance : Inspect Int := ⟨fun n => toString n⟩

instance : Inspect String := ⟨Text.quote⟩

/-- A character between apostrophes, itself the only quote that needs an escape. -/
def character (c : Char) : String :=
  "'" ++ String.ofList
    (if c = '\'' then ['\\', '\''] else if c = '"' then ['"'] else Text.quoteChar c) ++ "'"

instance : Inspect Char := ⟨character⟩

instance : Inspect Extended := ⟨Extended.text .log⟩

instance {α : Type} [Inspect α] : Inspect (List α) := ⟨fun xs => bracketed '[' ']' (xs.map inspect)⟩

instance {α : Type} [Inspect α] : Inspect (Option α) where
  inspect
    | none => "None"
    | some x => named "Some" (inspect x)

end Inspect

open Inspect

mutual
/-- The form of a node in log lines. -/
def Node.inspect : Node → String
  | .null => "Null"
  | .bool b => named "Bool" (Inspect.inspect b)
  | .number n => named "Number" (named "Number" n.text)
  | .string s => named "String" (Text.quote s)
  | .list items => named "List" (bracketed '[' ']' (Node.inspectItems items))
  | .tree t => named "Tree" t.inspect
termination_by structural node => node
def Node.inspectItems : List Node → List String
  | [] => []
  | item :: items => item.inspect :: Node.inspectItems items
termination_by structural items => items
def Tree.inspect : Tree → String
  | .ofEntries es =>
    record "PathTree" [("entries", bracketed '{' '}' (Tree.inspectEntries es))]
termination_by structural t => t
def Tree.inspectEntries : List (String × Node) → List String
  | [] => []
  | (key, node) :: es => (Text.quote key ++ ": " ++ node.inspect) :: Tree.inspectEntries es
termination_by structural es => es
end

instance : Inspect Node := ⟨Node.inspect⟩

instance : Inspect Tree := ⟨Tree.inspect⟩

end ConfigLayers
