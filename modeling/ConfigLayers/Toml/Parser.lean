import ConfigLayers.Toml.Draft
import ConfigLayers.Toml.Quoted
import ConfigLayers.Toml.Scalar

/-!
# Reading TOML

Documents of TOML 1.1: inline tables may go over several lines and end with a comma. Arrays and
inline tables nest at most 80 deep, and a key has at most 80 segments; a reader for one level less
reads what stands inside.
-/

namespace ConfigLayers.Toml

open Reader

/-- The limit of nested arrays and inline tables, and of the segments of a key. -/
def nestingLimit : Nat := 80

/-! ### Blanks -/

def skipBlanks : Reader Unit := do let _ ← run isBlankChar

/-- Skips blanks, line breaks and comments. -/
def skipGap : (inComment : Bool) → Reader Unit
  | _, [] => some ((), [])
  | _, '\n' :: cs => skipGap false cs
  | _, '\r' :: '\n' :: cs => skipGap false cs
  | true, c :: cs => if isTextChar c then skipGap true cs else none
  | false, c :: cs =>
    if c = '#' then skipGap true cs
    else if isBlankChar c then skipGap false cs
    else some ((), c :: cs)

/-- Skips blanks, line breaks and comments between the parts of a container. -/
def gap : Reader Unit := skipGap false

/-! ### Keys -/

def isKeyChar (c : Char) : Bool := c.isAlphanum || c == '_' || c == '-'

def segment : Reader String := fun cs =>
  match cs with
  | '"' :: _ | '\'' :: _ => lineString cs
  | cs => (run1 isKeyChar cs).map fun (name, rest) => (String.ofList name, rest)

/-- A key of at most `limit` segments, with dots and blanks between them. -/
def keyWithin : (limit : Nat) → Reader (List String)
  | 0 => failure
  | limit + 1 => do
    let first ← segment
    skipBlanks
    match ← peek? with
    | some '.' =>
      char '.'
      skipBlanks
      return first :: (← keyWithin limit)
    | _ => return [first]

def key : Reader (List String) := keyWithin nestingLimit

/-! ### Values -/

/-- Items with commas between them up to the closing bracket, at most `fuel`. -/
def items {α : Type} (item : Reader α) (right : Char) : (fuel : Nat) → Reader (List α)
  | 0 => failure
  | fuel + 1 => do
    gap
    if (← peek?) = some right then
      char right
      return []
    let first ← item
    gap
    if (← peek?) = some right then
      char right
      return [first]
    char ','
    return first :: (← items item right fuel)

/-- The items of a container after its opening bracket. There are fewer than characters. -/
def sequence {α : Type} (item : Reader α) (right : Char) : Reader (List α) := fun cs =>
  items item right (cs.length + 1) cs

def keyAndValue (value : Reader Value) : Reader (List String × Value) := do
  let keys ← key
  char '='
  skipBlanks
  return (keys, ← value)

/-- The table of the pairs of an inline table. -/
def inlineTable? (pairs : List (List String × Value)) : Option Value :=
  (pairs.foldlM (fun es pair => Draft.assign pair.1 pair.2 es) []).map fun es =>
    .table (Draft.finishEntries es)

def leaf : Reader Value := fun cs =>
  match cs with
  | '"' :: _ | '\'' :: _ => (anyString cs).map fun (s, rest) => (.string s, rest)
  | cs => scalar cs

/-- A value in which at most `depth` containers are open at once. -/
def value : (depth : Nat) → Reader Value
  | 0 => leaf
  | depth + 1 => fun cs =>
    match cs with
    | '[' :: cs => (sequence (value depth) ']' cs).map fun (items, rest) => (.array items, rest)
    | '{' :: cs =>
      match sequence (keyAndValue (value depth)) '}' cs with
      | some (pairs, rest) => (inlineTable? pairs).map fun table => (table, rest)
      | none => none
    | cs => leaf cs

/-! ### Documents -/

/-- A document as far as it is read: all tables, and the header that the next keys belong to. -/
structure Progress where
  root : Draft.Entries
  header : List String

/-- A header in brackets: that of a table, or of a further table of an array. -/
def header (p : Progress) : Reader Progress := do
  char '['
  if (← peek?) = some '[' then
    char '['
    skipBlanks
    let keys ← key
    char ']'
    char ']'
    let root ← (Draft.openItem keys p.root : Option Draft.Entries)
    return ⟨root, keys⟩
  else
    skipBlanks
    let keys ← key
    char ']'
    let root ← (Draft.openTable keys p.root : Option Draft.Entries)
    return ⟨root, keys⟩

def binding (p : Progress) : Reader Progress := do
  let (keys, v) ← keyAndValue (value nestingLimit)
  let root ← (Draft.assignUnder p.header keys v p.root : Option Draft.Entries)
  return { p with root := root }

/-- What has to follow an expression: the end of its line, perhaps after a comment. -/
def endOfLine : Reader Unit := do
  skipBlanks
  match ← peek? with
  | none | some '\n' | some '\r' | some '#' => gap
  | some _ => failure

/-- The expressions of a document, at most `fuel`. -/
def expressions : (fuel : Nat) → Progress → Reader Progress
  | 0, _ => failure
  | fuel + 1, p => do
    match ← peek? with
    | none => return p
    | some '[' =>
      let p ← header p
      endOfLine
      expressions fuel p
    | some _ =>
      let p ← binding p
      endOfLine
      expressions fuel p

/-- A document, perhaps after a byte order mark. -/
def document : Reader Progress := fun cs =>
  let cs := match cs with
    | '\ufeff' :: cs => cs
    | cs => cs
  (do gap; expressions (cs.length + 1) ⟨[], []⟩ : Reader Progress) cs

def parse? (text : String) : Option (List (String × Value)) :=
  (readAll document text.toList).map fun p => Draft.finishEntries p.root

end ConfigLayers.Toml
