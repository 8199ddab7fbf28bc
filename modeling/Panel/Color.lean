/-!
# Colors

Four channels of eight bits.  A color travels as one word, alpha in the highest byte, then red,
green and blue.
-/

namespace Panel

/-- Red, green and blue with an alpha channel. -/
structure Color where
  red : UInt8
  green : UInt8
  blue : UInt8
  alpha : UInt8
deriving DecidableEq, Repr, Inhabited

namespace Color

/-- A color with full alpha. -/
def solid (red green blue : UInt8) : Color := ⟨red, green, blue, 255⟩

/-- No ink at all; also what an unresolved color reference paints. -/
def transparent : Color := ⟨0, 0, 0, 0⟩

/-- Whether nothing of the color shows. -/
def isTransparent (c : Color) : Bool := c.alpha == 0

/-- Unpack the word that carries a color. -/
def ofWord (word : UInt32) : Color where
  alpha := (word >>> 24).toUInt8
  red := (word >>> 16).toUInt8
  green := (word >>> 8).toUInt8
  blue := word.toUInt8

/-- Pack a color into one word. -/
def toWord (c : Color) : UInt32 :=
  (c.alpha.toUInt32 <<< 24) ||| (c.red.toUInt32 <<< 16) ||| (c.green.toUInt32 <<< 8) |||
    c.blue.toUInt32

end Color

end Panel
