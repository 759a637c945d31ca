import ConfigLayers.Toml.Basic
import ConfigLayers.Text.Hex
import ConfigLayers.Text.Reader

/-!
# TOML scalars without quotes

Truth values, integers, floats, dates and times. The characters of such a scalar are taken together
and then have to be of one of these forms as a whole.
-/

namespace ConfigLayers.Toml

open Reader

/-! ### Numbers -/

def isDigitOf (base : Nat) (c : Char) : Bool := (Text.hexValue? c).any (· < base)

/-- Takes the underscores out of a run of digits. Each has to stand between two digits. -/
def plainDigits? (base : Nat) : List Char → Option (List Char)
  | [] => none
  | [c] => if isDigitOf base c then some [c] else none
  | c :: '_' :: cs => if isDigitOf base c then (plainDigits? base cs).map (c :: ·) else none
  | c :: cs => if isDigitOf base c then (plainDigits? base cs).map (c :: ·) else none

/-- The number that digits of a base denote. -/
def numberIn (base : Nat) (cs : List Char) : Nat :=
  cs.foldl (fun n c => base * n + (Text.hexValue? c).getD 0) 0

/-- Decimal digits without a superfluous leading zero. -/
def wholeDigits? (cs : List Char) : Option (List Char) := do
  let digits ← plainDigits? 10 cs
  if digits.length = 1 ∨ digits.head? ≠ some '0' then some digits else none

def takeSign : List Char → Bool × List Char
  | '-' :: cs => (true, cs)
  | '+' :: cs => (false, cs)
  | cs => (false, cs)

def fits (n : Int) : Bool := -(pow2 63 : Int) ≤ n && n < pow2 63

/-- An integer: decimal with an optional sign, or in another base without one. -/
def integer? (cs : List Char) : Option Int := do
  let n : Int ← match cs with
    | '0' :: 'x' :: cs => (plainDigits? 16 cs).map fun digits => (numberIn 16 digits : Int)
    | '0' :: 'o' :: cs => (plainDigits? 8 cs).map fun digits => (numberIn 8 digits : Int)
    | '0' :: 'b' :: cs => (plainDigits? 2 cs).map fun digits => (numberIn 2 digits : Int)
    | cs =>
      let (negative, cs) := takeSign cs
      (wholeDigits? cs).map fun digits => Binary64.signed negative (Decimal.digitsValue digits)
  if fits n then some n else none

def isExponentMark (c : Char) : Bool := c == 'e' || c == 'E'

/-- The exponent after its letter, if there is one. -/
def exponent? : List Char → Option Int
  | [] => some 0
  | _ :: cs =>
    let (negative, cs) := takeSign cs
    (plainDigits? 10 cs).map fun digits => Binary64.signed negative (Decimal.digitsValue digits)

/-- A float with a fraction, an exponent or both; none beyond the largest double. -/
def finiteFloat? (cs : List Char) : Option Extended := do
  let (negative, cs) := takeSign cs
  let significand := cs.takeWhile (!isExponentMark ·)
  let tail := cs.dropWhile (!isExponentMark ·)
  let whole ← wholeDigits? (significand.takeWhile (· ≠ '.'))
  let fraction ← match significand.dropWhile (· ≠ '.') with
    | [] => if tail = [] then none else some []
    | _ :: digits => plainDigits? 10 digits
  let exponent ← exponent? tail
  (Decimal.ofDigits negative whole fraction exponent).toBinary64?.map .finite

def namedFloat? (cs : List Char) : Option Extended :=
  let (negative, name) := takeSign cs
  if name = "inf".toList then some (.infinite negative)
  else if name = "nan".toList then some .nan
  else none

/-! ### Dates and times -/

def digitGroup (count : Nat) : Reader Nat := fun cs =>
  let digits := cs.take count
  if digits.length = count ∧ digits.all Char.isDigit then
    some (Decimal.digitsValue digits, cs.drop count)
  else none

def monthDays (year month : Nat) : Nat :=
  if month = 2 then
    if year % 4 = 0 ∧ (year % 100 ≠ 0 ∨ year % 400 = 0) then 29 else 28
  else if month ∈ [4, 6, 9, 11] then 30
  else 31

def date : Reader Date := do
  let year ← digitGroup 4
  char '-'
  let month ← digitGroup 2
  char '-'
  let day ← digitGroup 2
  guard (1 ≤ month ∧ month ≤ 12 ∧ 1 ≤ day ∧ day ≤ monthDays year month)
  return ⟨year, month, day⟩

/-- The nanoseconds of a fraction; what is finer is cut off. -/
def nanoseconds (digits : List Char) : Nat :=
  Decimal.digitsValue (digits.take 9) * pow10 (9 - digits.length)

/-- The fraction after the seconds, if there is one. -/
def secondFraction : Reader Nat := fun cs =>
  match cs with
  | '.' :: cs => (run1 Char.isDigit cs).map fun (digits, rest) => (nanoseconds digits, rest)
  | cs => some (0, cs)

/-- The seconds with their fraction, if they are given. -/
def seconds : Reader (Nat × Nat) := fun cs =>
  match cs with
  | ':' :: cs => (do return (← digitGroup 2, ← secondFraction) : Reader (Nat × Nat)) cs
  | cs => some ((0, 0), cs)

/-- A time of the day; a minute can have a leap second. -/
def time : Reader Time := do
  let hour ← digitGroup 2
  char ':'
  let minute ← digitGroup 2
  let (second, nanosecond) ← seconds
  guard (hour ≤ 23 ∧ minute ≤ 59 ∧ second ≤ 60)
  return ⟨hour, minute, second, nanosecond⟩

def offset : Reader (Option Offset) := do
  match ← peek? with
  | none => return none
  | some 'Z' | some 'z' => do
    let _ ← charOf fun _ => true
    return some .zulu
  | some _ => do
    let sign ← charOf fun c => c == '+' || c == '-'
    let hours ← digitGroup 2
    char ':'
    let minutes ← digitGroup 2
    guard (hours ≤ 23 ∧ minutes ≤ 59)
    return some (.minutes (Binary64.signed (sign = '-') (hours * 60 + minutes)))

def isDateMark (c : Char) : Bool := c == 'T' || c == 't' || c == ' '

/-- A date and a time with an optional offset. -/
def dateTime : Reader Moment := do
  let d ← date
  let _ ← charOf isDateMark
  let t ← time
  return .dateTime d t (← offset)

def moment? (cs : List Char) : Option Moment :=
  readAll (Moment.date <$> date) cs <|> readAll (Moment.time <$> time) cs <|> readAll dateTime cs

/-! ### Scalars -/

def boolean? (cs : List Char) : Option Bool :=
  if cs = "true".toList then some true
  else if cs = "false".toList then some false
  else none

/-- The value of a scalar without quotes. -/
def scalar? (cs : List Char) : Option Value :=
  Value.boolean <$> boolean? cs <|> Value.integer <$> integer? cs <|>
    Value.float <$> namedFloat? cs <|> Value.float <$> finiteFloat? cs <|>
    Value.moment <$> moment? cs

/-- A character that a scalar without quotes can have. -/
def isScalarChar (c : Char) : Bool := c.isAlphanum || c ∈ ['_', '+', '-', '.', ':']

/-- A scalar without quotes. A blank before a digit joins a date to the time that follows it. -/
def scalar : Reader Value := do
  let first ← run1 isScalarChar
  let more ← fun cs =>
    match cs with
    | ' ' :: c :: rest =>
      if c.isDigit ∧ (readAll date first).isSome then
        (run1 isScalarChar (c :: rest)).map fun (time, rest) => (' ' :: time, rest)
      else some ([], cs)
    | _ => some ([], cs)
  (scalar? (first ++ more) : Option Value)

end ConfigLayers.Toml
