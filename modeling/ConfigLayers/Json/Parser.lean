import ConfigLayers.Json.Basic
import ConfigLayers.Text.Hex
import ConfigLayers.Text.Reader

/-!
# Reading JSON

Strict JSON as RFC 8259 has it: no byte order mark, no trailing commas, no control characters or
unpaired surrogate escapes in strings, nothing after the value. Of two members with one key the last
counts. The number of containers that may be open at once is limited; a reader for one container
less reads what stands inside.
-/

namespace ConfigLayers.Json

def isGap (c : Char) : Bool := c == ' ' || c == '\n' || c == '\r' || c == '\t'

def skipGap (cs : List Char) : List Char := cs.dropWhile isGap

/-! ### Strings -/

/-- A part of a string: a character, or a code unit given by its number. -/
inductive Piece where
  | char (c : Char)
  | unit (n : Nat)

/-- The character that stands after a backslash for another one. -/
def simpleEscape? : Char → Option Char
  | '"' => some '"'
  | '\\' => some '\\'
  | '/' => some '/'
  | 'b' => some '\x08'
  | 'f' => some '\x0c'
  | 'n' => some '\n'
  | 'r' => some '\r'
  | 't' => some '\t'
  | _ => none

def readPieces : List Char → Option (List Piece × List Char)
  | [] => none
  | '"' :: cs => some ([], cs)
  | '\\' :: 'u' :: a :: b :: c :: d :: cs => do
    let unit ← Text.hexNumber? [a, b, c, d]
    let (pieces, rest) ← readPieces cs
    return (.unit unit :: pieces, rest)
  | '\\' :: c :: cs => do
    let escaped ← simpleEscape? c
    let (pieces, rest) ← readPieces cs
    return (.char escaped :: pieces, rest)
  | c :: cs =>
    if c.toNat < 0x20 then none
    else (readPieces cs).map fun (pieces, rest) => (.char c :: pieces, rest)

def isHighHalf (n : Nat) : Bool := 0xD800 ≤ n && n < 0xDC00

def isLowHalf (n : Nat) : Bool := 0xDC00 ≤ n && n < 0xE000

def pairChar (high low : Nat) : Char :=
  Char.ofNat (0x10000 + (high - 0xD800) * 0x400 + (low - 0xDC00))

/-- The characters that the pieces stand for. A first half waits for its second half, which has to
follow at once. -/
def joinPieces : Option Nat → List Piece → Option (List Char)
  | none, [] => some []
  | none, .char c :: pieces => (joinPieces none pieces).map (c :: ·)
  | none, .unit n :: pieces =>
    if isHighHalf n then joinPieces (some n) pieces
    else if isLowHalf n then none
    else (joinPieces none pieces).map (Char.ofNat n :: ·)
  | some high, .unit low :: pieces =>
    if isLowHalf low then (joinPieces none pieces).map (pairChar high low :: ·) else none
  | some _, _ => none

/-- The rest of a string after its opening quote. -/
def stringBody (cs : List Char) : Option (String × List Char) := do
  let (pieces, rest) ← readPieces cs
  let chars ← joinPieces none pieces
  return (String.ofList chars, rest)

/-! ### Numbers -/

/-- The digits after a point, if there is one; at least one then. -/
def fraction : Reader (List Char)
  | '.' :: cs => Reader.run1 Char.isDigit cs
  | cs => some ([], cs)

/-- An exponent with its sign, if there is one. -/
def exponent : Reader (Option Int) := fun cs =>
  match cs with
  | [] => some (none, [])
  | c :: rest =>
    if c = 'e' ∨ c = 'E' then
      match rest with
      | '-' :: rest => (Reader.run1 Char.isDigit rest).map fun (digits, rest) =>
          (some (-(Decimal.digitsValue digits : Int)), rest)
      | '+' :: rest => (Reader.run1 Char.isDigit rest).map fun (digits, rest) =>
          (some (Decimal.digitsValue digits : Int), rest)
      | rest => (Reader.run1 Char.isDigit rest).map fun (digits, rest) =>
          (some (Decimal.digitsValue digits : Int), rest)
    else some (none, cs)

/-- The digits before the point: one, or several of which the first is not zero. -/
def wholePart : Reader (List Char) := do
  let digits ← Reader.run1 Char.isDigit
  guard (digits.length = 1 ∨ digits.head? ≠ some '0')
  return digits

/-- A number without its sign. A numeral without point and exponent is a whole number, any other
one a double, which is scaled from the leading digits and so need not be the nearest. -/
def magnitude (negative : Bool) : Reader Number := do
  let whole ← wholePart
  let frac ← fraction
  match frac, ← exponent with
  | [], none => (Number.ofWhole? (.ofLeadingDigits negative whole [] 0) : Option Number)
  | frac, exp =>
    ((Decimal.ofLeadingDigits negative whole frac (exp.getD 0)).scaled?.map .double : Option Number)

def readNumber : Reader Number
  | '-' :: cs => magnitude true cs
  | cs => magnitude false cs

/-! ### Values -/

def scalar : Reader Json := fun cs =>
  match cs with
  | 'n' :: 'u' :: 'l' :: 'l' :: cs => some (.null, cs)
  | 't' :: 'r' :: 'u' :: 'e' :: cs => some (.bool true, cs)
  | 'f' :: 'a' :: 'l' :: 's' :: 'e' :: cs => some (.bool false, cs)
  | '"' :: cs => (stringBody cs).map fun (s, rest) => (.string s, rest)
  | cs => (readNumber cs).map fun (n, rest) => (.number n, rest)

/-- Items with commas between them up to the closing bracket, at least one and at most `fuel`. -/
def items {α : Type} (item : Reader α) (right : Char) : Nat → Reader (List α)
  | 0 => fun _ => none
  | fuel + 1 => fun cs => do
    let (first, cs) ← item (skipGap cs)
    match skipGap cs with
    | [] => none
    | c :: cs =>
      if c = right then return ([first], cs)
      else if c = ',' then
        let (others, cs) ← items item right fuel cs
        return (first :: others, cs)
      else none

/-- The items of a container after its opening bracket. There are fewer than characters. -/
def sequence {α : Type} (item : Reader α) (right : Char) : Reader (List α) := fun cs =>
  match skipGap cs with
  | [] => none
  | c :: rest => if c = right then some ([], rest) else items item right cs.length (c :: rest)

def keyAndValue (value : Reader Json) : Reader (String × Json)
  | '"' :: cs => do
    let (key, cs) ← stringBody cs
    match skipGap cs with
    | ':' :: cs =>
      let (v, cs) ← value (skipGap cs)
      return ((key, v), cs)
    | _ => none
  | _ => none

/-- A value in which at most `depth` containers are open at once. -/
def value : Nat → Reader Json
  | 0 => scalar
  | depth + 1 => fun cs =>
    match cs with
    | '[' :: cs => (sequence (value depth) ']' cs).map fun (items, rest) => (.array items, rest)
    | '{' :: cs =>
      (sequence (keyAndValue (value depth)) '}' cs).map fun (members, rest) =>
        (.object (Keyed.ofList members), rest)
    | cs => scalar cs

/-- The value of a text in which at most `depth` containers are open at once. -/
def parseWithin? (depth : Nat) (text : String) : Option Json :=
  match value depth (skipGap text.toList) with
  | some (v, rest) => if skipGap rest = [] then some v else none
  | none => none

/-- The containers that may be open at once in a document. -/
def nestingLimit : Nat := 127

def parse? (text : String) : Option Json := parseWithin? nestingLimit text

end ConfigLayers.Json
