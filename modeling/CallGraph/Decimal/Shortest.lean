/-!
# The shortest decimal of an interval

The decimals with `s` places are the multiples of `10 ^ (-s)`, a grid that gets finer with every
place.  The shortest decimal of an interval is the one on the coarsest grid that meets the
interval; where two points of that grid do, it is the one nearer to the value inside the
interval.  All comparisons are between natural numbers.
-/

namespace CallGraph

namespace Decimal

/-- A positive value and an interval around it, as numerators over one denominator. -/
structure Interval where
  denominator : Nat
  /-- The numerator of the lower end. -/
  low : Nat
  /-- The numerator of the value. -/
  value : Nat
  /-- The numerator of the upper end. -/
  high : Nat
  /-- Whether the ends belong to the interval. -/
  closed : Bool

/-- The decimal `coefficient · 10 ^ exponent`. -/
structure Scientific where
  coefficient : Nat
  /-- The exponent of ten. -/
  exponent : Int
  deriving DecidableEq, Repr

namespace Interval

/-- The decimal in units of one over the denominator and one over `10 ^ (-exponent)`; the value
and the ends are brought to the same units by `scaled`. -/
def units (interval : Interval) (decimal : Scientific) : Nat :=
  decimal.coefficient * Nat.pow 10 decimal.exponent.toNat * interval.denominator

/-- A numerator in the units of the grid `10 ^ exponent`. -/
def scaled (exponent : Int) (numerator : Nat) : Nat :=
  numerator * Nat.pow 10 (-exponent).toNat

/-- Whether a decimal lies in the interval. -/
def contains (interval : Interval) (decimal : Scientific) : Bool :=
  let point := interval.units decimal
  let low := scaled decimal.exponent interval.low
  let high := scaled decimal.exponent interval.high
  if interval.closed then low ≤ point && point ≤ high else low < point && point < high

/-- The greatest point of the grid `10 ^ exponent` that is not above the value. -/
def below (interval : Interval) (exponent : Int) : Scientific :=
  ⟨scaled exponent interval.value / (Nat.pow 10 exponent.toNat * interval.denominator), exponent⟩

/-- The point of the grid after `below`. -/
def above (interval : Interval) (exponent : Int) : Scientific :=
  ⟨(interval.below exponent).coefficient + 1, exponent⟩

/-- Whether the point below the value is nearer to it than the point above. -/
def belowIsNearer (interval : Interval) (exponent : Int) : Bool :=
  let value := scaled exponent interval.value
  value - interval.units (interval.below exponent) <
    interval.units (interval.above exponent) - value

/-- The point of the grid `10 ^ exponent` in the interval that is nearest to the value. -/
def onGrid? (interval : Interval) (exponent : Int) : Option Scientific :=
  let below := interval.below exponent
  let above := interval.above exponent
  let belowFits := below.coefficient != 0 && interval.contains below
  let aboveFits := interval.contains above
  if belowFits && (!aboveFits || interval.belowIsNearer exponent) then some below
  else if aboveFits then some above
  else none

/-- The shortest decimal of the interval among the grids `10 ^ top`, `10 ^ (top - 1)` and so on,
`grids` in number. -/
def shortest? (interval : Interval) : (grids : Nat) → (top : Int) → Option Scientific
  | 0, _ => none
  | grids + 1, top =>
    match interval.onGrid? top with
    | some decimal => some decimal
    | none => interval.shortest? grids (top - 1)

end Interval

/-- The decimal digits of a number. -/
def digits (number : Nat) : List Char :=
  Nat.toDigits 10 number

end Decimal

end CallGraph
