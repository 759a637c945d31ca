import ConfigLayers.Binary64.Nearest

/-!
# The shortest decimal that reads back

Every double is the nearest one to an interval of reals around it. The coarsest decimal grid with a
point in this interval gives the fewest digits; of its points there the nearest to the double is
taken. All comparisons are exact: both sides are scaled to natural numbers.
-/

namespace ConfigLayers

/-- Which of two equally near decimals is taken. -/
inductive Tie where
  | toEven
  | up

/-- A positive decimal in scientific form: `d₁.d₂…dₙ * 10 ^ exponent`. -/
structure Scientific where
  digits : List Char
  exponent : Int
  deriving DecidableEq

/-- The digits of `count * 10 ^ place` without the trailing zeros. -/
def Scientific.ofNat (count : Nat) (place : Int) : Scientific :=
  let written := Nat.toDigits 10 count
  ⟨(written.reverse.dropWhile (· == '0')).reverse, place + written.length - 1⟩

namespace Binary64

/-- The interval of reals that round to a double, in units of `2 ^ (exponent - 2)`, where the
double itself is `4 * significand`. -/
structure Interval where
  low : Nat
  high : Nat
  closed : Bool

/-- The interval of `x`. Below a power of two the neighbour is only half as far. -/
def interval (x : Binary64) : Interval where
  low := if x.significand = pow2 52 ∧ x.exponent ≠ -1074 then 4 * x.significand - 1
    else 4 * x.significand - 2
  high := 4 * x.significand + 2
  closed := x.significand % 2 == 0

/-- A decimal grid `10 ^ place`, laid beside a binary one: `c` grid steps and `n` units of
`2 ^ (exponent - 2)` are compared as `c * step` and `n * unit`. -/
structure Grid where
  step : Nat
  unit : Nat

/-- The grid `10 ^ place` beside the units of `x`. -/
def grid (x : Binary64) (place : Int) : Grid where
  step := pow10 place.toNat * pow2 (2 - x.exponent).toNat
  unit := pow10 (-place).toNat * pow2 (x.exponent - 2).toNat

/-- The point of `count` grid steps lies in the interval. -/
def Interval.holds (i : Interval) (g : Grid) (count : Nat) : Bool :=
  let point := count * g.step
  if i.closed then i.low * g.unit ≤ point && point ≤ i.high * g.unit
  else i.low * g.unit < point && point < i.high * g.unit

/-- The point of the grid `10 ^ place` that reads back as `x`, if there is one: one of the two
neighbours of `x`, and of both the nearer one. -/
def gridPoint? (tie : Tie) (x : Binary64) (place : Int) : Option Nat :=
  let g := grid x place
  let target := 4 * x.significand * g.unit
  let below := target / g.step
  match x.interval.holds g below, x.interval.holds g (below + 1) with
  | false, false => none
  | true, false => some below
  | false, true => some (below + 1)
  | true, true =>
    let rest := 2 * (target % g.step)
    if rest < g.step then some below
    else if g.step < rest then some (below + 1)
    else match tie with
      | .toEven => some (if below % 2 = 0 then below else below + 1)
      | .up => some (below + 1)

/-- A place that is coarser than every grid with a point in the interval of `x`. -/
def coarsestPlace (x : Binary64) : Int :=
  (((x.significand.log2 : Int) + x.exponent + 2) * 30103) / 100000 + 1

/-- The first place from `place` downwards with a grid point that reads back, and that point. -/
def searchPlace (tie : Tie) (x : Binary64) : Nat → Int → Option (Nat × Int)
  | 0, _ => none
  | fuel + 1, place =>
    match gridPoint? tie x place with
    | some count => some (count, place)
    | none => searchPlace tie x fuel (place - 1)

/-- The shortest decimal that reads back as `x`, the nearest of those; for zero, one digit `0`.
Seventeen digits always read back and the search starts at most three places above them. -/
def shortest (tie : Tie) (x : Binary64) : Scientific :=
  if x.isZero then ⟨['0'], 0⟩
  else match searchPlace tie x 20 x.coarsestPlace with
    | some (count, place) => Scientific.ofNat count place
    | none => ⟨['0'], 0⟩

end Binary64

end ConfigLayers
