import Panel.Decimal.Digits
import Panel.Single.Integer

/-!
# Shortest decimal text of a number

`shortest x` writes the fewest digits that read back as `x`, and of those the nearest to `x`, always
positionally.

The reals that round to a positive number form an interval around it; its ends belong to it exactly
when the significand is even.  On each grid of multiples of a power of ten the two neighbours of the
number are the only candidates, because a grid point in the interval lies no nearer than they do.
The coarsest grid with a candidate in the interval is the answer.
-/

namespace Panel.Decimal

/-- The interval of reals that round to a number, in units of `2 ^ exponent`. -/
structure Interval where
  low : Nat
  value : Nat
  high : Nat
  exponent : Int
  /-- Whether the two ends round to the number as well. -/
  closed : Bool

/-- The interval of a positive finite number.  Below a power of two the neighbours are twice as
close, except at the least exponent. -/
def Interval.of (x : Single) : Interval where
  low := 4 * x.significand -
    (if x.significand = 0x800000 ∧ 1 < x.exponentField then 1 else 2)
  value := 4 * x.significand
  high := 4 * x.significand + 2
  exponent := x.exponent - 2
  closed := x.significand % 2 = 0

/-- The candidate on the grid of multiples of `10 ^ p`: of the two neighbours of the value that lie
in the interval the nearer one, and the upper one of two equally near. -/
def Interval.onGrid? (i : Interval) (p : Int) : Option Nat :=
  -- Both sides are scaled to integers: `unit` stands for `2 ^ exponent`, `grid` for `10 ^ p`.
  let unit := powerOfTen (-p).toNat <<< i.exponent.toNat
  let grid := powerOfTen p.toNat <<< (-i.exponent).toNat
  let below := i.value * unit / grid
  let inside (n : Nat) : Bool :=
    if i.closed then i.low * unit ≤ n * grid && n * grid ≤ i.high * unit
    else i.low * unit < n * grid && n * grid < i.high * unit
  if inside below && (!inside (below + 1) || 2 * (i.value * unit % grid) < grid) then some below
  else if inside (below + 1) then some (below + 1)
  else none

/-- The first grid with a candidate, from `10 ^ p` downwards. -/
def Interval.coarsest (i : Interval) : Nat → Int → Nat × Int
  | 0, p => (0, p)
  | fuel + 1, p =>
    match i.onGrid? p with
    | some n => (n, p)
    | none => i.coarsest fuel (p - 1)

/-- The shortest digits of a positive finite number, as `n · 10 ^ p`.  Ninety-five grids reach from
above the largest number to nine digits of the smallest. -/
def shortestDigits (x : Single) : Nat × Int := (Interval.of x).coarsest 95 39

/-- The text of a number with the fewest digits that read back. -/
def shortest (x : Single) : String :=
  if x.isNaN then "NaN"
  else
    let sign := if x.isNegative then "-" else ""
    if x.isInfinite then sign ++ "inf"
    else if x.isZero then sign ++ "0"
    else
      let (n, p) := shortestDigits x
      sign ++ positional n p

end Panel.Decimal
