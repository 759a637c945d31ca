import ConfigLayers.Binary64.Layout
import ConfigLayers.Binary64.Scaled

/-!
# Numbers

A number of a document is an integer or a double, and keeps the class in which it was written: `1`
and `1.0` are different numbers. Integers range from `-2 ^ 63` to `2 ^ 64 - 1`; beyond that a whole
number is read as a double.
-/

namespace ConfigLayers

inductive Number where
  | int (n : Int)
  | double (x : Binary64)
  deriving DecidableEq

namespace Number

/-- The integers that are kept as integers. -/
def IsInteger (n : Int) : Prop := -(pow2 63 : Int) ≤ n ∧ n < pow2 64

instance (n : Int) : Decidable (IsInteger n) := inferInstanceAs (Decidable (_ ∧ _))

/-- The number of a numeral without fraction and exponent: an integer if all its digits fit and it
is in range. A minus zero is a double, the only form that has it. -/
def ofWhole? (d : Decimal) : Option Number :=
  let n := Binary64.signed d.negative d.digits
  if d.exponent = 0 ∧ IsInteger n ∧ ¬ (d.negative ∧ d.digits = 0) then some (.int n)
  else d.scaled?.map .double

def text : Number → String
  | .int n => toString n
  | .double x => Layout.document.text x

/-- The text of a number that reads of scalars start from: a double without fraction of magnitude
below `2 ^ 63` is written as an integer. -/
def scalarText : Number → String
  | .int n => toString n
  | .double x =>
    match x.toInt? with
    | some n => if n.natAbs < pow2 63 then toString n else Layout.document.text x
    | none => Layout.document.text x

def sameValue : Number → Number → Bool
  | .int m, .int n => m == n
  | .double x, .double y => x.sameValue y
  | _, _ => false

end Number

end ConfigLayers
