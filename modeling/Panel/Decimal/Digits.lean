/-!
# Decimal digits of natural numbers

`padded width n` is the decimal text of `n`, filled with zeros on the left to at least `width`
digits.
-/

namespace Panel.Decimal

/-- The decimal text of a natural number. -/
def digits (n : Nat) : String := String.ofList (Nat.toDigits 10 n)

/-- The decimal text of `n`, with zeros on the left up to `width` digits. -/
def padded (width n : Nat) : String :=
  let text := Nat.toDigits 10 n
  String.ofList (List.replicate (width - text.length) '0' ++ text)

/-- The decimal text of an integer. -/
def signed (i : Int) : String :=
  if i < 0 then "-" ++ digits i.natAbs else digits i.natAbs

/-- A power of ten. -/
def powerOfTen (n : Nat) : Nat := Nat.pow 10 n

/-- The positional text of `n · 10 ^ exponent`, without an exponent mark. -/
def positional (n : Nat) (exponent : Int) : String :=
  if 0 ≤ exponent then
    digits (n * powerOfTen exponent.toNat)
  else
    let places := (-exponent).toNat
    digits (n / powerOfTen places) ++ "." ++ padded places (n % powerOfTen places)

end Panel.Decimal
