import ConfigLayers.Configuration.Basic

/-!
# The shared configuration

A program keeps one configuration. The first load that succeeds decides which; a load that fails
leaves none behind, and later options are ignored.
-/

namespace ConfigLayers

/-- The configuration of a program, once one has been loaded. -/
abbrev Shared := Option Configuration

namespace Shared

/-- The configuration of the program, loaded with these options if there is none yet, and the state
after it. -/
def obtain (files : FileSystem) (processArgs : List String) (options : Options) :
    Shared → Logged Event (Except Error Configuration × Shared)
  | some c =>
    ⟨(.ok c, some c),
      if c.options.Same options then [] else [.optionsIgnored c.basePath options]⟩
  | none => do
    match ← Configuration.opened files processArgs options with
    | .ok c => return (.ok c, some c)
    | .error error => return (.error error, none)

end Shared

end ConfigLayers
