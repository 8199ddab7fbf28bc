/-!
# Single-precision numbers

A `Single` is the 32-bit pattern of an IEEE 754 single-precision number.  Keeping the pattern, and
not only the number, is what lets a document carry every not-a-number payload and both zeros
through decoding and encoding unchanged; equality of `Single`s is equality of patterns.

* `key` orders the numbers: `lt` and `le` compare keys, and nothing compares with a not-a-number;
* `min` and `max` prefer a number to a not-a-number and the first of two equal operands;
* `+`, `-`, `*`, `/` round once to nearest, ties to even.
-/

namespace Panel

/-- A single-precision number, kept as its bit pattern. -/
structure Single where
  /-- Sign, eight exponent bits and twenty-three fraction bits. -/
  bits : UInt32
deriving DecidableEq, Repr, Inhabited

namespace Single

/-! ## Patterns -/

/-- Positive zero. -/
def zero : Single := ⟨0⟩

/-- Negative zero, the neutral element of addition. -/
def negZero : Single := ⟨0x80000000⟩

/-- One half. -/
def half : Single := ⟨0x3F000000⟩

/-- One. -/
def one : Single := ⟨0x3F800000⟩

/-- Two. -/
def two : Single := ⟨0x40000000⟩

/-- The quiet not-a-number that arithmetic produces. -/
def nan : Single := ⟨0x7FC00000⟩

/-- The pattern without its sign bit. -/
def magnitude (x : Single) : Nat := x.bits.toNat % 0x80000000

/-- Whether the sign bit is set. -/
def isNegative (x : Single) : Bool := decide (0x80000000 ≤ x.bits.toNat)

/-- Whether the pattern denotes no number. -/
def isNaN (x : Single) : Bool := decide (0x7F800000 < x.magnitude)

/-- Whether the pattern denotes an infinity. -/
def isInfinite (x : Single) : Bool := decide (x.magnitude = 0x7F800000)

/-- Whether the pattern denotes one of the two zeros. -/
def isZero (x : Single) : Bool := decide (x.magnitude = 0)

/-! ## Order -/

/-- Position of a number on the line; the two zeros share one position. -/
def key (x : Single) : Int := if x.isNegative then -(x.magnitude : Int) else x.magnitude

/-- `x` and `y` are the same number.  The zeros are equal, a not-a-number equals nothing. -/
def sameNumber (x y : Single) : Bool := !x.isNaN && !y.isNaN && decide (x.key = y.key)

/-- `x` is a smaller number than `y`. -/
def lt (x y : Single) : Bool := !x.isNaN && !y.isNaN && decide (x.key < y.key)

/-- `x` is a number at most `y`. -/
def le (x y : Single) : Bool := !x.isNaN && !y.isNaN && decide (x.key ≤ y.key)

/-- The smaller operand: a number before a not-a-number, the first of equals. -/
def min (x y : Single) : Single := if x.isNaN then y else if y.lt x then y else x

/-- The larger operand: a number before a not-a-number, the first of equals. -/
def max (x y : Single) : Single := if x.isNaN then y else if x.lt y then y else x

/-- The larger of a value and positive zero; never a not-a-number and never negative zero. -/
def clampNegative (x : Single) : Single := if zero.lt x then x else zero

/-! ## Sign -/

/-- Flip the sign bit. -/
def neg (x : Single) : Single := ⟨x.bits ^^^ 0x80000000⟩

/-- Clear the sign bit. -/
def abs (x : Single) : Single := ⟨x.bits &&& 0x7FFFFFFF⟩

/-! ## Arithmetic -/

/-- The number itself, without the payload of a not-a-number. -/
def toFloat32 (x : Single) : Float32 := Float32.ofBits x.bits

/-- The pattern of a number. -/
def ofFloat32 (x : Float32) : Single := ⟨x.toBits⟩

instance : Neg Single := ⟨neg⟩
instance : Add Single := ⟨fun x y => ofFloat32 (x.toFloat32 + y.toFloat32)⟩
instance : Sub Single := ⟨fun x y => ofFloat32 (x.toFloat32 - y.toFloat32)⟩
instance : Mul Single := ⟨fun x y => ofFloat32 (x.toFloat32 * y.toFloat32)⟩
instance : Div Single := ⟨fun x y => ofFloat32 (x.toFloat32 / y.toFloat32)⟩

/-- The sum of a list, added from the left. -/
def sum (xs : List Single) : Single := xs.foldl (· + ·) negZero

end Single

end Panel
