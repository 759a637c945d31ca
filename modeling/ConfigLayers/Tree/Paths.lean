import ConfigLayers.Tree.Basic
import ConfigLayers.Error
import ConfigLayers.Text.Segments

/-!
# Dotted paths

A dotted path is cut at its dots into the keys to follow from the root. Writes keep the one
structural rule of trees: a key never changes between tree and leaf. A write changes the tree in
place, and says also after a failure which tree it left.
-/

namespace ConfigLayers

def Path.keys (path : String) : List String := Text.segments '.' path

def Path.dotted (segments : List String) : String := Text.join '.' segments

namespace Tree

/-! ### Reading -/

/-- The node at the end of a way through trees. -/
def find? (t : Tree) : List String → Option Node
  | [] => none
  | [key] => t.get? key
  | key :: next :: rest =>
    match t.get? key with
    | some (.tree sub) => sub.find? (next :: rest)
    | _ => none

def lookup (t : Tree) (path : String) : Except Error Node :=
  match t.find? (Path.keys path) with
  | some node => .ok node
  | none => .error (.notBound path)

/-- Every segment of the dotted path is bound. -/
def isBound (t : Tree) (path : String) : Bool := (t.find? (Path.keys path)).isSome

/-! ### Writing -/

/-- How a write ended, and the tree that it left. -/
structure Written where
  result : Except Error Unit
  tree : Tree

namespace Written

/-- A write inside the tree of a key, as a write to the tree that has the key. -/
def under (t : Tree) (key : String) (w : Written) : Written :=
  ⟨w.result, t.insert key (.tree w.tree)⟩

/-- The tree after a write that succeeded. -/
def toExcept : Written → Except Error Tree
  | ⟨.ok (), t⟩ => .ok t
  | ⟨.error error, _⟩ => .error error

end Written

/-- Binds a key of the root to a node, unless one of the old and the new node is a tree and the
other is not. -/
def bind (t : Tree) (label key : String) (node : Node) : Written :=
  match t.get? key with
  | some old =>
    if old.isTree = node.isTree then ⟨.ok (), t.insert key node⟩
    else ⟨.error (.kindConflict label old.kind node.kind), t⟩
  | none => ⟨.ok (), t.insert key node⟩

/-- Binds the key at the end of a way. Where the way leads beyond what is bound, new trees are put
in on the walk, before it is known how the write ends. `before` are the segments that led to `t`. -/
def write (t : Tree) (node : Node) (before : List String) : (key : String) → List String → Written
  | key, [] => t.bind (Path.dotted (before ++ [key])) key node
  | key, next :: rest =>
    match (t.get? key).getD (.tree empty) with
    | .tree sub => (sub.write node (before ++ [key]) next rest).under t key
    | leaf => ⟨.error (.kindConflict (Path.dotted (before ++ [key])) leaf.kind .tree), t⟩

/-- Binds the node at the end of the segments, in place. -/
def setInPlace (t : Tree) (segments : List String) (node : Node) : Written :=
  match segments with
  | [] => ⟨.error (.invalidPath ""), t⟩
  | key :: rest =>
    if "" ∈ key :: rest then ⟨.error (.invalidPath (Path.dotted (key :: rest))), t⟩
    else t.write node [] key rest

/-- Binds a key of the root in place; the key is not split. -/
def assignInPlace (t : Tree) (key : String) (node : Node) : Written :=
  if key = "" then ⟨.error (.invalidPath key), t⟩ else t.bind key key node

/-- Binds the node at the end of the segments. -/
def set (t : Tree) (segments : List String) (node : Node) : Except Error Tree :=
  (t.setInPlace segments node).toExcept

def setPath (t : Tree) (path : String) (node : Node) : Except Error Tree :=
  t.set (Path.keys path) node

/-- Binds a key of the root; the key is not split. -/
def assign (t : Tree) (key : String) (node : Node) : Except Error Tree :=
  (t.assignInPlace key node).toExcept

end Tree

end ConfigLayers
