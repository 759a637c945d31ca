import ConfigLayers.FormatError
import ConfigLayers.Document.Format

/-!
# Errors

What can go wrong when documents are read and trees are read and written. An error has a one-line
message and at most one cause; `describe` puts both together.
-/

namespace ConfigLayers

/-- Why the content of a file could not be taken as a text. -/
inductive ReadFault where
  | directory
  | notText
  deriving DecidableEq

def ReadFault.message : ReadFault → String
  | directory => "Is a directory (os error 21)"
  | notText => "stream did not contain valid UTF-8"

inductive Error where
  | documentMissing (path : String)
  | documentUnreadable (path : String) (fault : ReadFault)
  | documentMalformed (path : String) (format : Format)
  | rootNotObject (path : String)
  | notBound (path : String)
  | wrongFormat (path : String) (reason : FormatError)
  | kindConflict (path : String) (existing attempted : Kind)
  | invalidPath (path : String)

namespace Error

/-- The error is a failed read: there is no usable value. -/
def isLookupFailure : Error → Bool
  | notBound _ | wrongFormat _ _ => true
  | _ => false

def message : Error → String
  | documentMissing path => "Config file not found: " ++ path
  | documentUnreadable path _ => "Failed to read config file: " ++ path
  | documentMalformed path _ => "Failed to parse config file: " ++ path
  | rootNotObject path => "Config document root is not an object: " ++ path
  | notBound path => "Key not present: " ++ path
  | wrongFormat path _ => "Key " ++ path ++ " has a wrong format"
  | kindConflict path existing attempted =>
    "Invalid assignment to " ++ path ++ ": would replace a " ++ existing.name ++ " with a " ++
      attempted.name
  | invalidPath path => "Invalid key path: " ++ Text.quote path

/-- The cause of an error, if it has one. -/
def cause? : Error → Option String
  | documentUnreadable _ fault => some fault.message
  | documentMalformed _ .json => some "not well-formed JSON"
  | documentMalformed _ .toml => some "not well-formed TOML"
  | wrongFormat _ reason => some reason.message
  | _ => none

def describe (e : Error) : String :=
  match e.cause? with
  | none => e.message
  | some cause => e.message ++ ": " ++ cause

end Error

end ConfigLayers
