import ConfigLayers.FileSystem
import ConfigLayers.Json.Parser
import ConfigLayers.Toml.Parser
import ConfigLayers.Tree.Json
import ConfigLayers.Tree.Toml
import ConfigLayers.Error

/-!
# Documents

A document is a file that holds a tree, in the format that its path tells.
-/

namespace ConfigLayers.Document

/-- The tree of a document with this content; the path picks the format and labels the errors. -/
def parse (path content : String) : Except Error Tree :=
  match Format.ofPath path with
  | .json =>
    match Json.parse? content with
    | none => .error (.documentMalformed path .json)
    | some value =>
      match Tree.ofJson? value with
      | some t => .ok t
      | none => .error (.rootNotObject path)
  | .toml =>
    match Toml.parse? content with
    | none => .error (.documentMalformed path .toml)
    | some table => .ok (Tree.ofToml table)

def load (files : FileSystem) (path : String) : Except Error Tree :=
  match files path with
  | .absent => .error (.documentMissing path)
  | .directory => .error (.documentUnreadable path .directory)
  | .file bytes =>
    match String.fromUTF8? bytes with
    | none => .error (.documentUnreadable path .notText)
    | some content => parse path content

end ConfigLayers.Document
