import ConfigLayers.Binary64.Shortest

/-!
# Layouts of a double

A layout says how the shortest digits of a double are laid out as a text: in which range of
exponents the point stands among the digits, and how the rest is written.
-/

namespace ConfigLayers

structure Layout where
  /-- The least exponent that is written positionally; every one if absent. -/
  least : Option Int
  /-- The greatest exponent that is written positionally; every one if absent. -/
  greatest : Option Int
  /-- What follows a whole number in positional form. -/
  whole : String
  /-- What stands between the digits and an exponent that is not negative. -/
  mark : String
  /-- Which of two equally near shortest decimals is taken. -/
  tie : Tie

namespace Layout

/-- The exponent is written positionally. -/
def isPositional (layout : Layout) (exponent : Int) : Bool :=
  layout.least.all (· ≤ exponent) && layout.greatest.all (exponent ≤ ·)

/-- Digits with the point after place `exponent`, filled up with zeros. -/
def positional (layout : Layout) (digits : List Char) (exponent : Int) : String :=
  if exponent < 0 then
    "0." ++ String.ofList (List.replicate (-exponent - 1).toNat '0' ++ digits)
  else
    let places := exponent.toNat + 1
    if digits.length ≤ places then
      String.ofList (digits ++ List.replicate (places - digits.length) '0') ++ layout.whole
    else String.ofList (digits.take places ++ '.' :: digits.drop places)

/-- One digit, the others after the point, and the exponent. -/
def scientific (layout : Layout) (digits : List Char) (exponent : Int) : String :=
  let significand := match digits with
    | first :: next :: rest => first :: '.' :: next :: rest
    | short => short
  String.ofList significand ++
    (if exponent < 0 then "e-" else layout.mark) ++ toString exponent.natAbs

def text (layout : Layout) (x : Binary64) : String :=
  let s := x.shortest layout.tie
  (if x.negative then "-" else "") ++
    (if layout.isPositional s.exponent then layout.positional s.digits s.exponent
    else layout.scientific s.digits s.exponent)

/-- The layout of documents: positional from `10 ^ -5` to below `10 ^ 16`, with a fraction. -/
def document : Layout := ⟨some (-5), some 15, ".0", "e+", .toEven⟩

/-- The layout of plain values: never an exponent, no empty fraction. -/
def plain : Layout := ⟨none, none, "", "e", .up⟩

/-- The layout of log lines: positional from `10 ^ -4` to below `10 ^ 16`, with a fraction. -/
def log : Layout := ⟨some (-4), some 15, ".0", "e", .up⟩

end Layout

/-! ### With infinities -/

inductive Extended where
  | finite (x : Binary64)
  | infinite (negative : Bool)
  | nan
  deriving DecidableEq

namespace Extended

/-- The nearest double of a numeral, infinite beyond the largest finite one. -/
def ofDecimal (d : Decimal) : Extended :=
  match d.toBinary64? with
  | some x => .finite x
  | none => .infinite d.negative

def text (layout : Layout) : Extended → String
  | .finite x => layout.text x
  | .infinite negative => if negative then "-inf" else "inf"
  | .nan => "NaN"

end Extended

end ConfigLayers
