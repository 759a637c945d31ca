import ConfigLayers.Document.Read
import ConfigLayers.Event

/-!
# Modules

A string directly under the root key `modules` names the document of a module. Resolving the modules
puts the trees of these documents in place of their names, one level deep. A module that cannot be
read keeps its name and hinders no other one.
-/

namespace ConfigLayers.Modules

/-- A module whose document is to be read. -/
structure Reference where
  name : String
  file : String

/-- The references among the children of the modules tree, in key order. -/
def references (modules : Tree) : List Reference :=
  modules.entries.filterMap fun entry => entry.2.string?.map fun file => ⟨entry.1, file⟩

/-- The document of a reference below a directory. -/
def Reference.load (files : FileSystem) (dir : String) (r : Reference) : Except Error Tree :=
  Document.load files (Path.join dir r.file)

/-- Puts the tree of a module in place of its reference, if it could be read. -/
def Reference.place (files : FileSystem) (dir : String) (modules : Tree) (r : Reference) : Tree :=
  match r.load files dir with
  | .ok document => modules.insert r.name (.tree document)
  | .error _ => modules

/-- The name of a module that could not be read, with the reason. -/
def Reference.failure? (files : FileSystem) (dir : String) (r : Reference) :
    Option (String × Error) :=
  match r.load files dir with
  | .ok _ => none
  | .error error => some (r.name, error)

/-- The event of reading the document of a module. -/
def Reference.event (files : FileSystem) (dir : String) (r : Reference) : Event :=
  match r.load files dir with
  | .ok _ => .moduleLoaded r.name
  | .error error => .moduleFailed r.name r.file error

/-- Resolves the modules of a tree with the documents of a directory. The result names the modules
that could not be read, with the reason. -/
def resolve (files : FileSystem) (dir : String) (t : Tree) :
    Logged Event (Tree × List (String × Error)) :=
  match t.get? modulesKey with
  | none => pure (t, [])
  | some (.tree modules) =>
    let refs := references modules
    let resolved := refs.foldl (Reference.place files dir) modules
    ⟨(t.insert modulesKey (.tree resolved), refs.filterMap (Reference.failure? files dir)),
      refs.map (Reference.event files dir)⟩
  | some leaf => ⟨(t, []), [.modulesIgnored leaf.kind]⟩

/-- The tree of a resolved module; the name is not split. -/
def tree? (t : Tree) (name : String) : Option Tree :=
  (t.subtree? modulesKey).bind fun modules => modules.subtree? name

end ConfigLayers.Modules
