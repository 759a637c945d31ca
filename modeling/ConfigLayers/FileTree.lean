import ConfigLayers.FileSystem
import ConfigLayers.Keyed
import ConfigLayers.Text.Segments

/-!
# Files in memory

A directory tree held as a value, and the file system that it is for paths relative to its root.
Following a path goes from piece to piece: an empty piece and `.` stay, `..` goes up, and all of
them need a directory to stand in. Nothing is known of what lies outside the tree.
-/

namespace ConfigLayers

inductive FileTree where
  | file (bytes : ByteArray)
  | directory (children : List (String × FileTree))

namespace FileTree

def empty : FileTree := directory []

instance : Inhabited FileTree := ⟨empty⟩

/-- A name that a file can have: up to 255 bytes, none of them zero. -/
def isFileName (name : String) : Bool := name.utf8ByteSize ≤ 255 && !name.toList.contains '\x00'

/-- Follows pieces of a path; the stack holds the directories from the current one up. -/
def follow : List FileTree → List String → Option FileTree
  | [], _ => none
  | current :: _, [] => some current
  | current :: above, piece :: pieces =>
    match current with
    | file _ => none
    | directory children =>
      if piece = "" ∨ piece = "." then follow (current :: above) pieces
      else if piece = ".." then
        follow (if above.isEmpty then [empty] else above) pieces
      else if isFileName piece then
        match Keyed.get? piece children with
        | some child => follow (child :: current :: above) pieces
        | none => none
      else none

/-- A path that can be followed: not empty, up to 4095 bytes, and within the tree, which the
absolute paths are not. -/
def isFollowed (path : String) : Bool :=
  path ≠ "" && path.utf8ByteSize ≤ 4095 && path.toList.head? ≠ some '/'

def entry (root : FileTree) : FileSystem := fun path =>
  if path = "/" then .directory
  else if ¬ isFollowed path then .absent
  else match follow [root] (Text.segments '/' path) with
    | none => .absent
    | some (file bytes) => .file bytes
    | some (directory _) => .directory

/-- The names along a path, without the pieces that lead nowhere. -/
def names (path : String) : List String :=
  (Text.segments '/' path).filter fun piece => piece ≠ "" ∧ piece ≠ "."

/-- The children of a directory; a file has none. -/
def children : FileTree → List (String × FileTree)
  | directory children => children
  | file _ => []

/-- Puts a node at the end of the names, with the directories on the way. A directory that is there
already stays as it is. -/
def put (node : FileTree) : List String → FileTree → FileTree
  | [], old =>
    match node, old with
    | directory _, directory children => directory children
    | node, _ => node
  | name :: names, old =>
    let child := (Keyed.get? name old.children).getD empty
    directory (Keyed.insert name (put node names child) old.children)

/-- Takes away what is at the end of the names. -/
def remove : List String → FileTree → FileTree
  | [], _ => empty
  | [name], old => directory (old.children.filter (·.1 ≠ name))
  | name :: next :: names, old =>
    match Keyed.get? name old.children with
    | some child => directory (Keyed.insert name (remove (next :: names) child) old.children)
    | none => old

end FileTree

end ConfigLayers
