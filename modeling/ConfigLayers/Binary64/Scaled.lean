import ConfigLayers.Binary64.Nearest

/-!
# Numerals in double arithmetic

A quick way to read a decimal numeral: its digits, as many of them as fit into 64 bits, are taken as
a double, and this is multiplied by a power of ten or divided by it. Each of these steps is rounded,
so that the outcome may lie beside the nearest double: `122.416294033786585` is read as the double
of `122.4162940337866`.
-/

namespace ConfigLayers

namespace Binary64

/-! ### Products and quotients -/

/-- The double nearest to `num / den * 2 ^ exponent`; none if that would be infinite. -/
def ofRatio? (negative : Bool) (num den : Nat) (exponent : Int) : Option Binary64 :=
  ofQuotient? negative (num * pow2 exponent.toNat) (den * pow2 (-exponent).toNat)

/-- The rounded product; none if it would be infinite. -/
def mul? (x y : Binary64) : Option Binary64 :=
  ofRatio? (x.negative != y.negative) (x.significand * y.significand) 1 (x.exponent + y.exponent)

/-- The rounded quotient, where the divisor is not zero; none if it would be infinite. -/
def div? (x y : Binary64) : Option Binary64 :=
  ofRatio? (x.negative != y.negative) x.significand y.significand (x.exponent - y.exponent)

/-- The greatest exponent of a power of ten among the doubles. -/
def greatestTen : Nat := 308

/-- The double nearest to `10 ^ n`; none beyond the greatest. -/
def tenPow? (n : Nat) : Option Binary64 :=
  if n ≤ greatestTen then ofQuotient? false (pow10 n) 1 else none

/-- Divides so many times by the greatest power of ten, but no more once zero is reached. -/
def divGreatest? : Nat → Binary64 → Option Binary64
  | 0, x => some x
  | times + 1, x =>
    if x.isZero then some x
    else do
      let quotient ← x.div? (← tenPow? greatestTen)
      divGreatest? times quotient

end Binary64

/-! ### Decimal numerals -/

namespace Decimal

/-- Puts digits behind a number as long as it stays below `2 ^ 64`, and counts those left over. -/
def appendDigits : Nat → List Char → Nat × Nat
  | n, [] => (n, 0)
  | n, c :: cs =>
    let longer := 10 * n + digitValue c
    if longer < pow2 64 then appendDigits longer cs else (n, cs.length + 1)

/-- The numeral with these digits before and after the point, as far as they fit. A digit left over
before the point still counts as a place, and after the point not at all. -/
def ofLeadingDigits (negative : Bool) (whole fraction : List Char) (exponent : Int) : Decimal :=
  let (n, places) := appendDigits 0 whole
  let (digits, rest) := appendDigits n fraction
  ⟨negative, digits, exponent + places - (fraction.length - rest : Nat)⟩

open Binary64 in
/-- The double of the digits, scaled by the power of ten; none if that would be infinite. Zero is
not scaled at all. By a power beyond the greatest one it is divided in several steps. -/
def scaled? (d : Decimal) : Option Binary64 := do
  let x ← ofQuotient? d.negative d.digits 1
  let places := d.exponent.natAbs
  if x.isZero then return x
  else if 0 ≤ d.exponent then x.mul? (← tenPow? places)
  else
    let times := (places - 1) / greatestTen
    let quotient ← divGreatest? times x
    quotient.div? (← tenPow? (places - greatestTen * times))

end Decimal

end ConfigLayers
