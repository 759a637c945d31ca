import ConfigLayers.Path.Basic
import ConfigLayers.Tree.Inspect

/-!
# Options

What a configuration is made from, and the reserved names of its parts.
-/

namespace ConfigLayers

/-- The name of the base document when no other one is given. -/
def defaultConfigName : String := "main.json"

/-- The directory of the documents below that of the program when no other one is given. -/
def defaultConfigDir : String := "conf"

/-- The root key whose children are the modules. -/
def modulesKey : String := "modules"

/-- The root key that collects the bare tokens of the command line. -/
def defaultKey : String := "default"

structure Options where
  /-- Start from an empty tree and read no document. -/
  inMemory : Bool
  /-- The directory of the base and module documents. -/
  configDir : Option String
  /-- The file name of the base document. -/
  configName : Option String
  /-- The argument vector of the overlay, the program first. -/
  args : Option (List String)
  deriving DecidableEq

/-- The options agree. Directories are compared as paths, whatever their spelling. -/
def Options.Same (a b : Options) : Prop :=
  a.inMemory = b.inMemory ∧ a.configDir.map Path.components = b.configDir.map Path.components ∧
    a.configName = b.configName ∧ a.args = b.args

instance (a b : Options) : Decidable (a.Same b) := inferInstanceAs (Decidable (_ ∧ _))

def Options.inspect (options : Options) : String :=
  Inspect.record "ConfigOptions"
    [("in_memory", Inspect.inspect options.inMemory),
      ("config_dir", Inspect.inspect options.configDir),
      ("config_name", Inspect.inspect options.configName),
      ("args", Inspect.inspect options.args)]

instance : Inspect Options := ⟨Options.inspect⟩

end ConfigLayers
