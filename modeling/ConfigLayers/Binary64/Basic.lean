import ConfigLayers.Power

/-!
# Doubles

The finite values of the IEEE 754 format `binary64`, each in its one canonical form: a sign, a
significand and an exponent of two. Zero has two forms, one for each sign.
-/

namespace ConfigLayers

/-- The parts of `significand * 2 ^ exponent` are canonical: 53 binary digits, fewer only at the
least exponent. -/
def Binary64.Canonical (significand : Nat) (exponent : Int) : Prop :=
  significand < pow2 53 ∧ -1074 ≤ exponent ∧ exponent ≤ 971 ∧
    (pow2 52 ≤ significand ∨ exponent = -1074)

instance (significand : Nat) (exponent : Int) :
    Decidable (Binary64.Canonical significand exponent) :=
  inferInstanceAs (Decidable (_ ∧ _ ∧ _ ∧ (_ ∨ _)))

/-- A finite double, of value `± significand * 2 ^ exponent`. -/
structure Binary64 where
  negative : Bool
  significand : Nat
  exponent : Int
  canonical : Binary64.Canonical significand exponent
  deriving DecidableEq

namespace Binary64

def zero (negative : Bool) : Binary64 := ⟨negative, 0, -1074, by decide⟩

/-- The double of these parts, if they are canonical. -/
def ofParts? (negative : Bool) (significand : Nat) (exponent : Int) : Option Binary64 :=
  if h : Canonical significand exponent then some ⟨negative, significand, exponent, h⟩ else none

def isZero (x : Binary64) : Bool := x.significand == 0

/-- Equality of values: the two zeros are equal, all else is as it is written. -/
def sameValue (x y : Binary64) : Bool := (x.isZero && y.isZero) || x == y

def signed (negative : Bool) (n : Nat) : Int := if negative then -(n : Int) else n

/-- The value of a double without a fractional part. -/
def toInt? (x : Binary64) : Option Int :=
  if 0 ≤ x.exponent then
    some (signed x.negative (x.significand * pow2 x.exponent.toNat))
  else if x.significand % pow2 (-x.exponent).toNat = 0 then
    some (signed x.negative (x.significand / pow2 (-x.exponent).toNat))
  else none

end Binary64

end ConfigLayers
