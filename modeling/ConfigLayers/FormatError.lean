import ConfigLayers.Json.Basic
import ConfigLayers.Tree.Basic
import ConfigLayers.Text.Quoted

/-!
# Why a value has the wrong format

A read of a bound node can fail because the node is no scalar, because its text is no value of the
wanted type, or because it does not have the wanted shape.
-/

namespace ConfigLayers

inductive Fault where
  | integerEmpty
  | integerDigit
  | integerTooLarge
  | integerTooSmall
  | floatEmpty
  | floatInvalid
  | boolInvalid
  | charEmpty
  | charTooLong
  deriving DecidableEq

def Fault.message : Fault → String
  | integerEmpty => "cannot parse integer from empty string"
  | integerDigit => "invalid digit found in string"
  | integerTooLarge => "number too large to fit in target type"
  | integerTooSmall => "number too small to fit in target type"
  | floatEmpty => "cannot parse float from empty string"
  | floatInvalid => "invalid float literal"
  | boolInvalid => "provided string was not `true` or `false`"
  | charEmpty => "cannot parse char from empty string"
  | charTooLong => "too many characters in string"

inductive Mismatch where
  | sort (found : Json) (wanted : String)
  | range (n : Int) (wanted : String)
  | missing (field : String)
  | tooShort (length : Nat) (record : String) (fields : Nat)
  | tooLong (length : Nat)

/-- What a value is, in the message of a mismatch. -/
def Json.found : Json → String
  | null => "null"
  | bool b => "boolean `" ++ (if b then "true" else "false") ++ "`"
  | number (.int n) => "integer `" ++ toString n ++ "`"
  | number (.double x) => "floating point `" ++ Layout.document.text x ++ "`"
  | string s => "string " ++ Text.quote s
  | array _ => "sequence"
  | object _ => "map"

def Mismatch.message : Mismatch → String
  | sort found wanted => "invalid type: " ++ found.found ++ ", expected " ++ wanted
  | range n wanted => "invalid value: integer `" ++ toString n ++ "`, expected " ++ wanted
  | missing field => "missing field `" ++ field ++ "`"
  | tooShort length record fields =>
    "invalid length " ++ toString length ++ ", expected struct " ++ record ++ " with " ++
      toString fields ++ (if fields = 1 then " element" else " elements")
  | tooLong length => "invalid length " ++ toString length ++ ", expected fewer elements in array"

/-- Why a bound node is not what a read asks for. -/
inductive FormatError where
  | notScalar (kind : Kind)
  | unreadable (text type : String) (fault : Option Fault)
  | mismatch (m : Mismatch)

def FormatError.message : FormatError → String
  | notScalar kind => "expected a scalar, found a " ++ kind.name
  | unreadable text type fault =>
    "cannot read " ++ Text.quote text ++ " as " ++ type ++
      (match fault with
      | some fault => ": " ++ fault.message
      | none => "")
  | mismatch m => m.message

end ConfigLayers
