import ConfigLayers.Main
import ConfigLayers.FileTree
import ConfigLayers.Configuration.Shared
import ConfigLayers.Proofs.Tree.Refusals
import ConfigLayers.Proofs.Overlay.Contents
import ConfigLayers.Proofs.Overlay.Sorts
import ConfigLayers.Proofs.Overlay.Order
import ConfigLayers.Proofs.Overlay.Repetition
import ConfigLayers.Proofs.Configuration.LifeCycle
import ConfigLayers.Proofs.Configuration.Precedence
import ConfigLayers.Proofs.Modules
import ConfigLayers.Proofs.Overlay.Accounts
import ConfigLayers.Proofs.Overlay.Strings
import ConfigLayers.Proofs.Text.Bytes
import ConfigLayers.Proofs.Configuration.ModuleFates
import ConfigLayers.Proofs.Configuration.Dependence
import ConfigLayers.Proofs.Configuration.Shared
import ConfigLayers.Proofs.Modules.OneLevel
import ConfigLayers.Proofs.Configuration.Reads
import ConfigLayers.Proofs.Configuration.ModuleReads
import ConfigLayers.Proofs.Json.Integers
import ConfigLayers.Proofs.Json.Strings
import ConfigLayers.Proofs.Json.RoundTrip
import ConfigLayers.Proofs.Tree.Json
import ConfigLayers.Proofs.Overlay.Calls
import ConfigLayers.Proofs.Text.Blank
import ConfigLayers.Proofs.Coerce.Integers
import ConfigLayers.Proofs.Overlay.Arguments
import ConfigLayers.Proofs.Section.Integers
import ConfigLayers.Proofs.Coerce.Doubles
import ConfigLayers.Proofs.CommandLine.Reads
import ConfigLayers.Proofs.CommandLine.Listing
import ConfigLayers.Proofs.Tree.Toml
import ConfigLayers.Proofs.Coerce.Lists
import ConfigLayers.Proofs.Path.Components
import ConfigLayers.Proofs.Path.Program
import ConfigLayers.Proofs.Tree.Composition
import ConfigLayers.Proofs.Configuration.Reasons
