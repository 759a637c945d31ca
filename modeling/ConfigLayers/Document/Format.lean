import ConfigLayers.Path.Basic

/-!
# Document formats

A document is TOML if its file name has the extension `toml` in any case, and JSON otherwise.
-/

namespace ConfigLayers

inductive Format where
  | json
  | toml
  deriving DecidableEq

namespace Format

def name : Format → String
  | json => "json"
  | toml => "toml"

/-- The format of the document at a path. -/
def ofPath (path : String) : Format :=
  if (Path.extension? path).map String.toLower = some "toml" then toml else json

end Format

end ConfigLayers
