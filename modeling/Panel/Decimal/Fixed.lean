import Panel.Decimal.Digits
import Panel.Single.Integer

/-!
# Numbers with a fixed number of places

`fixed places x` writes `x` with exactly `places` digits after the point.  The exact value is
rounded once, to the nearest multiple of `10 ^ -places`, and a value half-way between two multiples
goes to the even one.
-/

namespace Panel.Decimal

/-- The nearest natural number to `num / den`; half-way goes to the even neighbour. -/
def roundDiv (num den : Nat) : Nat :=
  let quotient := num / den
  let twice := 2 * (num % den)
  if twice < den then quotient
  else if den < twice then quotient + 1
  else if quotient % 2 = 0 then quotient else quotient + 1

/-- The magnitude of a finite number in units of `10 ^ -places`, rounded. -/
def scaledMagnitude (places : Nat) (x : Single) : Nat :=
  if 0 ≤ x.exponent then (x.significand * powerOfTen places) <<< x.exponent.toNat
  else roundDiv (x.significand * powerOfTen places) (1 <<< (-x.exponent).toNat)

/-- The text of a magnitude counted in units of `10 ^ -places`. -/
def pointed (places n : Nat) : String :=
  if places = 0 then digits n else positional n (-places)

/-- The text of `x` with `places` digits after the point.  The sign of a negative zero and of a
value that rounds to zero is kept. -/
def fixed (places : Nat) (x : Single) : String :=
  if x.isNaN then "NaN"
  else
    let sign := if x.isNegative then "-" else ""
    if x.isInfinite then sign ++ "inf"
    else sign ++ pointed places (scaledMagnitude places x)

end Panel.Decimal
