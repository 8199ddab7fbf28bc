import Panel.Single.Basic

/-!
# Single-precision numbers and integers

A finite number is `± significand · 2 ^ exponent`, exactly.  Conversions in both directions and the
remainder of a division are stated on that form.

* `ofNat`, `ofInt32` round an integer to the nearest number, ties to even;
* `toInt32` drops the fraction and stops at the ends of the integer range;
* `rem` is the exact remainder of the quotient truncated toward zero.
-/

namespace Panel.Single

/-! ## The exact value of a pattern -/

/-- The eight exponent bits. -/
def exponentField (x : Single) : Nat := x.magnitude / 0x800000

/-- The integer that `2 ^ exponent` scales: the fraction bits, with the leading bit of a normal
number. -/
def significand (x : Single) : Nat :=
  if x.exponentField = 0 then x.magnitude else x.magnitude % 0x800000 + 0x800000

/-- The power of two that scales the significand. -/
def exponent (x : Single) : Int := (Nat.max x.exponentField 1 : Int) - 150

/-- The number `± significand · 2 ^ exponent` for a significand below `2 ^ 24` and an exponent of
at least `-149`, where the result is exact. -/
def ofScaled (negative : Bool) (significand : Nat) (exponent : Int) : Single :=
  let sign := if negative then 0x80000000 else 0
  let top := exponent + significand.log2
  if significand = 0 then
    ⟨.ofNat sign⟩
  else if top < -126 then
    ⟨.ofNat (sign + significand <<< (exponent + 149).toNat)⟩
  else
    ⟨.ofNat (sign + (top + 126).toNat * 0x800000 + significand <<< (23 - significand.log2))⟩

/-! ## From integers -/

/-- The nearest number to a natural number. -/
def ofNat (n : Nat) : Single := ofFloat32 (Float32.ofNat n)

/-- The nearest number to a 32-bit integer. -/
def ofInt32 (i : Int32) : Single := ofFloat32 (Float32.ofInt i.toInt)

/-! ## To integers -/

/-- The value without its fraction.  Infinities count as `± 2 ^ 128`. -/
def truncate (x : Single) : Int :=
  let whole := if 0 ≤ x.exponent then x.significand <<< x.exponent.toNat
    else x.significand >>> (-x.exponent).toNat
  if x.isNegative then -(whole : Int) else whole

/-- The value without its fraction, clamped to the range; a not-a-number gives zero. -/
def toInt32 (x : Single) : Int32 :=
  if x.isNaN then 0
  else if x.truncate < -0x80000000 then Int32.minValue
  else if 0x7FFFFFFF < x.truncate then Int32.maxValue
  else .ofInt x.truncate

/-! ## Remainder -/

/-- What is left of `x` after subtracting `y` the truncated-quotient number of times, with the sign
of `x`.  There is no remainder of an infinity or by a zero. -/
def rem (x y : Single) : Single :=
  if x.isNaN || y.isNaN || x.isInfinite || y.isZero then
    nan
  else if y.isInfinite then
    x
  else
    let e := Min.min x.exponent y.exponent
    ofScaled x.isNegative
      ((x.significand <<< (x.exponent - e).toNat) % (y.significand <<< (y.exponent - e).toNat)) e

end Panel.Single
