import ConfigLayers.Text.Hex
import ConfigLayers.Text.Reader

/-!
# TOML strings

The four kinds of strings: with escapes or literal, each on one line or over several. A string over
several lines loses a line break right after its opening quotes and may have one or two quotes right
before its closing ones.
-/

namespace ConfigLayers.Toml

def isBlankChar (c : Char) : Bool := c == ' ' || c == '\t'

/-- A character that may stand in a comment or a string: no control, apart from the tab. -/
def isTextChar (c : Char) : Bool := c == '\t' || (0x20 ≤ c.toNat && c.toNat ≠ 0x7F)

/-- The character that stands after a backslash for another one. -/
def simpleEscape? : Char → Option Char
  | '"' => some '"'
  | '\\' => some '\\'
  | 'b' => some '\x08'
  | 'e' => some '\x1b'
  | 'f' => some '\x0c'
  | 'n' => some '\n'
  | 'r' => some '\r'
  | 't' => some '\t'
  | _ => none

def scalarValue? (n : Nat) : Option Char := if n.isValidChar then some (Char.ofNat n) else none

/-- The number of hexadecimal digits after a letter that starts a code point. -/
def codePointWidth? : Char → Option Nat
  | 'x' => some 2
  | 'u' => some 4
  | 'U' => some 8
  | _ => none

/-- The character of an escape after its backslash. -/
def escape : Reader Char
  | [] => none
  | c :: cs =>
    match codePointWidth? c with
    | some width =>
      if (cs.take width).length = width then
        (Text.hexNumber? (cs.take width)).bind fun n =>
          (scalarValue? n).map fun decoded => (decoded, cs.drop width)
      else none
    | none => (simpleEscape? c).map fun decoded => (decoded, cs)

/-- Drops the line break at the front, if there is one. -/
def dropBreak? : List Char → Option (List Char)
  | '\n' :: cs => some cs
  | '\r' :: '\n' :: cs => some cs
  | _ => none

/-! ### On one line -/

/-- The rest of a string with escapes, of at most `fuel` characters. -/
def basicBody : Nat → Reader (List Char)
  | 0, _ => none
  | fuel + 1, cs =>
    match cs with
    | [] => none
    | '"' :: cs => some ([], cs)
    | '\\' :: cs => do
      let (c, cs) ← escape cs
      let (body, rest) ← basicBody fuel cs
      return (c :: body, rest)
    | c :: cs =>
      if isTextChar c then (basicBody fuel cs).map fun (body, rest) => (c :: body, rest) else none

def literalBody : Reader (List Char) := fun cs =>
  let body := cs.takeWhile fun c => isTextChar c && c ≠ '\''
  match cs.dropWhile fun c => isTextChar c && c ≠ '\'' with
  | '\'' :: rest => some (body, rest)
  | _ => none

/-! ### Over several lines -/

/-- The end of a string over several lines: three quotes, and up to two more that belong to it. -/
def closing? (quote : Char) (cs : List Char) : Option (List Char × List Char) :=
  let count := (cs.takeWhile (· = quote)).length
  if count < 3 then none
  else some (List.replicate (min (count - 3) 2) quote, cs.drop (min count 5))

def skipLines : List Char → List Char
  | '\n' :: cs => skipLines cs
  | '\r' :: '\n' :: cs => skipLines cs
  | c :: cs => if isBlankChar c then skipLines cs else c :: cs
  | [] => []

/-- What follows a backslash at the end of a line: the next character that is no blank. -/
def continuation? (cs : List Char) : Option (List Char) :=
  (dropBreak? (cs.dropWhile isBlankChar)).map skipLines

/-- The rest of a string over several lines, of at most `fuel` characters. -/
def linesBody (quote : Char) (escapes : Bool) : Nat → Reader (List Char)
  | 0, _ => none
  | fuel + 1, cs =>
    match closing? quote cs with
    | some (quotes, rest) => some (quotes, rest)
    | none =>
      match cs with
      | [] => none
      | '\r' :: '\n' :: cs =>
        (linesBody quote escapes fuel cs).map fun (body, rest) => ('\r' :: '\n' :: body, rest)
      | '\n' :: cs => (linesBody quote escapes fuel cs).map fun (body, rest) => ('\n' :: body, rest)
      | c :: cs =>
        if escapes ∧ c = '\\' then
          match continuation? cs with
          | some cs => linesBody quote escapes fuel cs
          | none => do
            let (c, cs) ← escape cs
            let (body, rest) ← linesBody quote escapes fuel cs
            return (c :: body, rest)
        else if isTextChar c then
          (linesBody quote escapes fuel cs).map fun (body, rest) => (c :: body, rest)
        else none

/-- The rest of a string over several lines. -/
def severalLines (quote : Char) (escapes : Bool) : Reader (List Char) := fun cs =>
  linesBody quote escapes (cs.length + 1) ((dropBreak? cs).getD cs)

/-! ### Strings -/

/-- A string on one line, of either kind. -/
def lineString : Reader String
  | '"' :: cs => (basicBody (cs.length + 1) cs).map fun (body, rest) => (String.ofList body, rest)
  | '\'' :: cs => (literalBody cs).map fun (body, rest) => (String.ofList body, rest)
  | _ => none

def anyString : Reader String
  | '"' :: '"' :: '"' :: cs =>
    (severalLines '"' true cs).map fun (body, rest) => (String.ofList body, rest)
  | '\'' :: '\'' :: '\'' :: cs =>
    (severalLines '\'' false cs).map fun (body, rest) => (String.ofList body, rest)
  | cs => lineString cs

end ConfigLayers.Toml
