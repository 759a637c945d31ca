import ConfigLayers.Binary64.Basic

/-!
# The nearest double

Decimal numerals are read as the nearest double. Of two equally near ones the one with the even
significand is taken. A numeral beyond the largest double has no nearest one here, and a very small
one is read as zero.
-/

namespace ConfigLayers

/-- The quotient `num / den` rounded to the nearest natural number, a half to the even one. -/
def roundQuotient (num den : Nat) : Nat :=
  let low := num / den
  let rest := 2 * (num % den)
  if rest < den then low
  else if den < rest then low + 1
  else if low % 2 = 0 then low else low + 1

namespace Binary64

/-- The quotient `num / den` in units of `2 ^ exponent`, rounded. -/
def scaleQuotient (num den : Nat) (exponent : Int) : Nat :=
  roundQuotient (num * pow2 (-exponent).toNat) (den * pow2 exponent.toNat)

/-- The exponent at which `num / den` has 53 binary digits before the point, but never below the
least one. -/
def unitExponent (num den : Nat) : Int :=
  let guess : Int := (num.log2 : Int) - (den.log2 : Int) - 53
  let fits := num * pow2 (-guess).toNat / (den * pow2 guess.toNat) < pow2 53
  max (-1074) (if fits then guess else guess + 1)

/-- The double nearest to `num / den`; none if that would be infinite. -/
def ofQuotient? (negative : Bool) (num den : Nat) : Option Binary64 :=
  if num = 0 then some (zero negative)
  else
    let exponent := unitExponent num den
    let significand := scaleQuotient num den exponent
    if significand = pow2 53 then ofParts? negative (pow2 52) (exponent + 1)
    else ofParts? negative significand exponent

end Binary64

/-! ### Decimal numerals -/

/-- A decimal numeral, of value `± digits * 10 ^ exponent`. -/
structure Decimal where
  negative : Bool
  digits : Nat
  exponent : Int
  deriving DecidableEq

namespace Decimal

def digitValue (c : Char) : Nat := c.toNat - '0'.toNat

/-- The number that a run of digits denotes. -/
def digitsValue (cs : List Char) : Nat := cs.foldl (fun n c => 10 * n + digitValue c) 0

/-- The numeral with these digits before and after the point. -/
def ofDigits (negative : Bool) (whole fraction : List Char) (exponent : Int) : Decimal :=
  ⟨negative, digitsValue (whole ++ fraction), exponent - fraction.length⟩

/-- The position of the leading digit: the numeral is below `10 ^ magnitude`. -/
def magnitude (d : Decimal) : Int := (Nat.toDigits 10 d.digits).length + d.exponent

/-- The nearest double; none beyond the largest one. Numerals of a magnitude that no double has are
settled by it alone, so that a huge exponent costs nothing. -/
def toBinary64? (d : Decimal) : Option Binary64 :=
  if d.digits = 0 then some (Binary64.zero d.negative)
  else if 310 < d.magnitude then none
  else if d.magnitude < -330 then some (Binary64.zero d.negative)
  else
    Binary64.ofQuotient? d.negative (d.digits * pow10 d.exponent.toNat) (pow10 (-d.exponent).toNat)

end Decimal

end ConfigLayers
