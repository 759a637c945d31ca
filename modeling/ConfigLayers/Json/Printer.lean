import ConfigLayers.Json.Basic
import ConfigLayers.Text.Hex

/-!
# Writing JSON

One printer, with a record that says what stands between the parts: nothing for the compact form, a
line break and two blanks per level for the pretty one.
-/

namespace ConfigLayers.Json

/-! ### Texts in quotes -/

/-- The escape `\u00xx` of a control character. -/
def controlEscape (c : Char) : List Char := '\\' :: 'u' :: Text.hexPadded 4 c.toNat

/-- One character of a string: only the quote, the backslash and controls are escaped. -/
def writeChar (c : Char) : List Char :=
  match c with
  | '"' => ['\\', '"']
  | '\\' => ['\\', '\\']
  | '\n' => ['\\', 'n']
  | '\r' => ['\\', 'r']
  | '\t' => ['\\', 't']
  | '\x08' => ['\\', 'b']
  | '\x0c' => ['\\', 'f']
  | c => if c.toNat < 0x20 then controlEscape c else [c]

def writeString (s : String) : List Char := '"' :: s.toList.flatMap writeChar ++ ['"']

/-! ### Values -/

/-- What is written between the parts of a container. -/
structure Spacing where
  /-- Before each item and before the closing bracket, at the given depth. -/
  gap : Nat → List Char
  /-- After the colon of a member. -/
  afterColon : List Char

namespace Spacing

def compact : Spacing := ⟨fun _ => [], []⟩

/-- One item a line, indented by two blanks per level. -/
def pretty : Spacing := ⟨fun depth => '\n' :: List.replicate (2 * depth) ' ', [' ']⟩

end Spacing

/-- The written items with their commas, inside brackets; an empty container has no gap. -/
def bracket (sp : Spacing) (depth : Nat) (left right : Char) : List (List Char) → List Char
  | [] => [left, right]
  | item :: items =>
    left :: sp.gap (depth + 1) ++ item ++
      items.flatMap (fun next => ',' :: sp.gap (depth + 1) ++ next) ++ sp.gap depth ++ [right]

mutual
/-- The text of a value at the given depth. -/
def write (sp : Spacing) (depth : Nat) : Json → List Char
  | null => "null".toList
  | bool b => (if b then "true" else "false").toList
  | number n => n.text.toList
  | string s => writeString s
  | array items => bracket sp depth '[' ']' (writeItems sp (depth + 1) items)
  | object members => bracket sp depth '{' '}' (writeMembers sp (depth + 1) members)
termination_by structural value => value
def writeItems (sp : Spacing) (depth : Nat) : List Json → List (List Char)
  | [] => []
  | item :: items => write sp depth item :: writeItems sp depth items
termination_by structural items => items
def writeMembers (sp : Spacing) (depth : Nat) : List (String × Json) → List (List Char)
  | [] => []
  | (key, value) :: members =>
    (writeString key ++ ':' :: sp.afterColon ++ write sp depth value) ::
      writeMembers sp depth members
termination_by structural members => members
end

/-- The text of a value without any spacing. -/
def compact (value : Json) : String := String.ofList (write .compact 0 value)

/-- The text of a value over several lines. -/
def pretty (value : Json) : String := String.ofList (write .pretty 0 value)

end ConfigLayers.Json
