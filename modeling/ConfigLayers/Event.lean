import ConfigLayers.Configuration.Options
import ConfigLayers.Error
import ConfigLayers.Logged

/-!
# Events

What a configuration reports while it is loaded and read. Every event has a level and a message.
-/

namespace ConfigLayers

inductive Phase where
  | unloaded
  | baseLoaded
  | modulesResolved
  | overlaid
  | ready
  | failed
  deriving DecidableEq

def Phase.name : Phase → String
  | unloaded => "unloaded"
  | baseLoaded => "base-loaded"
  | modulesResolved => "modules-resolved"
  | overlaid => "overlaid"
  | ready => "ready"
  | failed => "failed"

inductive Level where
  | error
  | warn
  | info
  | debug
  deriving DecidableEq

def Level.name : Level → String
  | error => "ERROR"
  | warn => "WARN"
  | info => "INFO"
  | debug => "DEBUG"

inductive Event where
  | phaseChanged (before after : Phase)
  | baseLoaded (name : String)
  | modulesIgnored (kind : Kind)
  | moduleLoaded (name : String)
  | moduleFailed (name file : String) (error : Error)
  | argumentsPassed (tokens : List String)
  | assignmentRead (name value : String)
  | rootAssignment (name value : String)
  | assignmentRejected (name : String) (error : Error)
  | bareTokenLost (token : String)
  | tokenMalformed (token : String)
  | overlayApplied (assigned collected rejected : Nat)
  | loadFailed (error : Error)
  | reloading (path : String)
  | moduleAsked (name : String)
  /-- A read gives its default, since there is no value or, else, none of the wanted format. -/
  | defaultUsed (path : String) (wrongFormat : Bool) (shown : String)
  | readFailed (error : Error)
  /-- The shared configuration is asked for with other options than it was opened with. -/
  | optionsIgnored (path : String) (options : Options)

namespace Event

def level : Event → Level
  | moduleFailed .. | assignmentRejected .. | bareTokenLost .. | loadFailed .. | readFailed .. =>
    .error
  | modulesIgnored .. | defaultUsed .. | optionsIgnored .. => .warn
  | baseLoaded .. | moduleLoaded .. | argumentsPassed .. | reloading .. => .info
  | phaseChanged .. | assignmentRead .. | rootAssignment .. | tokenMalformed .. |
    overlayApplied .. | moduleAsked .. => .debug

def message : Event → String
  | phaseChanged before after => "Configuration " ++ before.name ++ " -> " ++ after.name
  | baseLoaded name => "Loaded main settings: " ++ name
  | modulesIgnored kind =>
    "Ignoring '" ++ modulesKey ++ "': expected a tree, found a " ++ kind.name
  | moduleLoaded name => "Loaded module settings: " ++ name
  | moduleFailed name file error =>
    "Couldn't load module " ++ name ++ " configuration from " ++ file ++ ": " ++ error.message
  | argumentsPassed tokens => "Passed commandline arguments: " ++ inspect tokens
  | assignmentRead name value => "Parse param '" ++ name ++ "' with value '" ++ value ++ "'"
  | rootAssignment name value => "Replacing param '" ++ name ++ "' to value '" ++ value ++ "'"
  | assignmentRejected name error =>
    "Couldn't recognise parameter '" ++ name ++ "': " ++ error.message
  | bareTokenLost token =>
    "Couldn't append '" ++ token ++ "': '" ++ defaultKey ++ "' is no longer a list"
  | tokenMalformed token => "Dropping malformed argument '" ++ token ++ "'"
  | overlayApplied assigned collected rejected =>
    "Applied " ++ toString assigned ++ " overrides and " ++ toString collected ++
      " default tokens, rejected " ++ toString rejected
  | loadFailed error => "Error in parsing or open config file: " ++ error.message
  | reloading path => "Reloading configuration from " ++ path
  | moduleAsked name => "Getting module configuration " ++ name
  | defaultUsed path wrongFormat shown =>
    "Key " ++ path ++ (if wrongFormat then " has a wrong format" else " not present") ++
      ", using default " ++ shown
  | readFailed error => error.message
  | optionsIgnored path options =>
    "Configuration already initialized from " ++ path ++ "; ignoring new options " ++
      inspect options

end Event

end ConfigLayers
