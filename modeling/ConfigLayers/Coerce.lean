import ConfigLayers.FormatError
import ConfigLayers.Text.Blank
import ConfigLayers.Text.Segments
import ConfigLayers.Text.Reader

/-!
# Coercions

A coercion takes the text of a scalar to a value of a type, or says why the text is none. White
space around the value is ignored, except where the value is the text itself.
-/

namespace ConfigLayers

structure IntType where
  signed : Bool
  bits : Nat
  deriving DecidableEq

namespace IntType

/-- The name of the type: `i` or `u` and its width. -/
def name (t : IntType) : String := (if t.signed then "i" else "u") ++ toString t.bits

def least (t : IntType) : Int := if t.signed then -(pow2 (t.bits - 1) : Int) else 0

def greatest (t : IntType) : Int :=
  (if t.signed then pow2 (t.bits - 1) else pow2 t.bits : Nat) - 1

def u8 : IntType := ⟨false, 8⟩

def u16 : IntType := ⟨false, 16⟩

def u32 : IntType := ⟨false, 32⟩

def u64 : IntType := ⟨false, 64⟩

def i8 : IntType := ⟨true, 8⟩

def i16 : IntType := ⟨true, 16⟩

def i32 : IntType := ⟨true, 32⟩

def i64 : IntType := ⟨true, 64⟩

end IntType

/-- Takes the text of a scalar to a value. -/
abbrev Coercion (α : Type) := String → Except FormatError α

namespace Coerce

/-! ### Integers -/

/-- Takes one more digit; a character that is no digit counts before an overflow at its place. -/
def addDigit (t : IntType) (negative : Bool) (n : Int) (c : Char) : Except Fault Int :=
  if c.isDigit then
    let next := if negative then 10 * n - Decimal.digitValue c else 10 * n + Decimal.digitValue c
    if next < t.least then .error .integerTooSmall
    else if t.greatest < next then .error .integerTooLarge
    else .ok next
  else .error .integerDigit

/-- The integer that digits denote; there has to be one. -/
def digits (t : IntType) (negative : Bool) : List Char → Except Fault Int
  | [] => .error .integerDigit
  | cs => cs.foldlM (addDigit t negative) 0

/-- An integer: digits with an optional sign, a minus for signed types only. -/
def integerOfChars (t : IntType) : List Char → Except Fault Int
  | [] => .error .integerEmpty
  | c :: cs =>
    if c = '+' then digits t false cs
    else if c = '-' ∧ t.signed then digits t true cs
    else digits t false (c :: cs)

/-! ### Doubles -/

/-- Reads an exponent with an optional sign; none counts as zero. -/
def exponentOfChars? : List Char → Option Int
  | [] => some 0
  | e :: cs =>
    let (negative, ds) := match cs with
      | '-' :: ds => (true, ds)
      | '+' :: ds => (false, ds)
      | ds => (false, ds)
    if (e = 'e' ∨ e = 'E') ∧ ds ≠ [] ∧ ds.all Char.isDigit then
      some (Binary64.signed negative (Decimal.digitsValue ds))
    else none

/-- A double without its sign: a name, or digits with a point somewhere and an exponent. -/
def magnitudeOfChars? (negative : Bool) (cs : List Char) : Option Extended :=
  let word := String.ofList (cs.map Char.toLower)
  if word = "inf" ∨ word = "infinity" then some (.infinite negative)
  else if word = "nan" then some .nan
  else
    let whole := cs.takeWhile Char.isDigit
    let (fraction, rest) := match cs.dropWhile Char.isDigit with
      | '.' :: rest => (rest.takeWhile Char.isDigit, rest.dropWhile Char.isDigit)
      | rest => ([], rest)
    if whole = [] ∧ fraction = [] then none
    else (exponentOfChars? rest).map fun e => .ofDecimal (.ofDigits negative whole fraction e)

def floatOfChars : List Char → Except Fault Extended
  | [] => .error .floatEmpty
  | c :: cs =>
    let value := if c = '-' then magnitudeOfChars? true cs
      else if c = '+' then magnitudeOfChars? false cs
      else magnitudeOfChars? false (c :: cs)
    match value with
    | some x => .ok x
    | none => .error .floatInvalid

/-! ### Truth values and characters -/

def boolOfChars (cs : List Char) : Except Fault Bool :=
  if cs = "true".toList then .ok true
  else if cs = "false".toList then .ok false
  else .error .boolInvalid

def charOfChars : List Char → Except Fault Char
  | [] => .error .charEmpty
  | [c] => .ok c
  | _ => .error .charTooLong

/-! ### Coercions -/

/-- Reads the trimmed text; a fault is reported with the text as it was. -/
def trimmed {α : Type} (type : String) (read : List Char → Except Fault α) : Coercion α :=
  fun text =>
    match read (Text.trimChars text.toList) with
    | .ok value => .ok value
    | .error fault => .error (.unreadable text type (some fault))

def integer (t : IntType) : Coercion Int := trimmed t.name (integerOfChars t)

def float : Coercion Extended := trimmed "f64" floatOfChars

/-- A truth value: `true` or `false`, nothing else. -/
def bool : Coercion Bool := trimmed "bool" boolOfChars

def char : Coercion Char := trimmed "char" charOfChars

def string : Coercion String := .ok

/-- A truth value by any of its usual spellings, in any case. -/
def boolean : Coercion Bool := fun text =>
  let word := (Text.trim text).toLower
  if word ∈ ["1", "true", "yes", "on"] then .ok true
  else if word ∈ ["0", "false", "no", "off"] then .ok false
  else .error (.unreadable text "bool" none)

/-- The items of a comma list, trimmed, without empty ones. -/
def items (text : String) : List String :=
  ((Text.segments ',' text).map Text.trim).filter (· ≠ "")

/-- The items of a comma list; every text is one. -/
def list : Coercion (List String) := fun text => .ok (items text)

end Coerce

end ConfigLayers
