import ConfigLayers.Text.Unprintable
import ConfigLayers.Text.Extending
import ConfigLayers.Text.Hex

/-!
# Quoted texts

The form in which messages show a text of unknown content: between double quotes, with whatever is
not plainly visible written as an escape. An apostrophe needs none.
-/

namespace ConfigLayers.Text

/-- The escape of a character by its code point. -/
def codePointEscape (c : Char) : List Char :=
  ['\\', 'u', '{'] ++ hexDigits c.toNat ++ ['}']

def quoteChar (c : Char) : List Char :=
  match c with
  | '"' => ['\\', '"']
  | '\\' => ['\\', '\\']
  | '\n' => ['\\', 'n']
  | '\r' => ['\\', 'r']
  | '\t' => ['\\', 't']
  | '\x00' => ['\\', '0']
  | c => if isExtending c || isUnprintable c then codePointEscape c else [c]

def quote (s : String) : String :=
  String.ofList ('"' :: s.toList.flatMap quoteChar ++ ['"'])

end ConfigLayers.Text
