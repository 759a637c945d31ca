import ConfigLayers.Number
import ConfigLayers.Keyed

/-!
# Configuration trees

A tree binds keys to nodes; a node is a leaf or a tree again. Lists are leaves, so that an override
can replace a list but never reaches into one. The keys of a tree stand in ascending order, each
once; `Tree.Ordered` says so at every depth.
-/

namespace ConfigLayers

mutual
/-- A value bound to a key: a leaf or a tree. -/
inductive Node where
  | null
  | bool (b : Bool)
  | number (n : Number)
  | string (s : String)
  | list (items : List Node)
  | tree (t : Tree)
inductive Tree where
  | ofEntries (entries : List (String × Node))
end

instance : Inhabited Node := ⟨.null⟩

instance : Inhabited Tree := ⟨.ofEntries []⟩

/-! ### Kinds -/

inductive Kind where
  | null
  | bool
  | number
  | string
  | list
  | tree
  deriving DecidableEq

def Kind.name : Kind → String
  | null => "null"
  | bool => "bool"
  | number => "number"
  | string => "string"
  | list => "list"
  | tree => "tree"

namespace Node

def kind : Node → Kind
  | null => .null
  | bool _ => .bool
  | number _ => .number
  | string _ => .string
  | list _ => .list
  | tree _ => .tree

def isTree : Node → Bool
  | tree _ => true
  | _ => false

def tree? : Node → Option Tree
  | tree t => some t
  | _ => none

def string? : Node → Option String
  | string s => some s
  | _ => none

/-- The text of a scalar, from which typed reads start. Null, lists and trees have none. -/
def text? : Node → Option String
  | bool b => some (if b then "true" else "false")
  | number n => some n.scalarText
  | string s => some s
  | null | list _ | tree _ => none

end Node

/-! ### Direct children -/

namespace Tree

def entries : Tree → List (String × Node)
  | ofEntries es => es

def empty : Tree := ofEntries []

/-- The node bound to a key of the root; the key is not split. -/
def get? (t : Tree) (key : String) : Option Node := Keyed.get? key t.entries

/-- Binds a key of the root, whatever it was bound to. -/
def insert (t : Tree) (key : String) (node : Node) : Tree :=
  ofEntries (Keyed.insert key node t.entries)

def size (t : Tree) : Nat := t.entries.length

/-- The tree that a key of the root is bound to. -/
def subtree? (t : Tree) (key : String) : Option Tree := (t.get? key).bind Node.tree?

@[simp] theorem entries_ofEntries (es : List (String × Node)) : (ofEntries es).entries = es := rfl

@[simp] theorem get?_empty (key : String) : empty.get? key = none := rfl

@[simp] theorem get?_insert_self (t : Tree) (key : String) (node : Node) :
    (t.insert key node).get? key = some node := by
  simp [get?, insert]

end Tree

/-! ### Equality of values -/

mutual
/-- Same kinds and values; the two zeros of doubles are equal. -/
def Node.sameValue : Node → Node → Bool
  | .null, .null => true
  | .bool a, .bool b => a == b
  | .number m, .number n => m.sameValue n
  | .string s, .string t => s == t
  | .list xs, .list ys => Node.sameItems xs ys
  | .tree t, .tree u => t.sameValue u
  | _, _ => false
termination_by structural node => node
def Node.sameItems : List Node → List Node → Bool
  | [], [] => true
  | x :: xs, y :: ys => x.sameValue y && Node.sameItems xs ys
  | _, _ => false
termination_by structural xs => xs
def Tree.sameValue : Tree → Tree → Bool
  | .ofEntries es, .ofEntries fs => Tree.sameEntries es fs
termination_by structural t => t
def Tree.sameEntries : List (String × Node) → List (String × Node) → Bool
  | [], [] => true
  | (k, x) :: es, (l, y) :: fs => k == l && x.sameValue y && Tree.sameEntries es fs
  | _, _ => false
termination_by structural es => es
end

/-! ### Order -/

mutual
/-- The keys of every tree in the node ascend. -/
def Node.Ordered : Node → Prop
  | .list items => Node.ItemsOrdered items
  | .tree t => t.Ordered
  | _ => True
termination_by structural node => node
def Node.ItemsOrdered : List Node → Prop
  | [] => True
  | item :: items => item.Ordered ∧ Node.ItemsOrdered items
termination_by structural items => items
def Tree.Ordered : Tree → Prop
  | .ofEntries es => Keyed.Ascending es ∧ Tree.EntriesOrdered es
termination_by structural t => t
def Tree.EntriesOrdered : List (String × Node) → Prop
  | [] => True
  | (_, node) :: es => node.Ordered ∧ Tree.EntriesOrdered es
termination_by structural es => es
end

end ConfigLayers
