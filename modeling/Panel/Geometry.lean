import Panel.Single.Basic

/-!
# Points, sizes and bounds

Coordinates grow to the right and downwards.  `Axis` names the two directions, so that what holds
along one can be said of the other.
-/

namespace Panel

/-- A position in layout units. -/
structure Point where
  x : Single
  y : Single
deriving DecidableEq, Repr, Inhabited

/-- An extent along both axes. -/
structure Size where
  width : Single
  height : Single
deriving DecidableEq, Repr, Inhabited

/-- The top-left corner. -/
def Point.origin : Point := ⟨.zero, .zero⟩

/-- No extent. -/
def Size.empty : Size := ⟨.zero, .zero⟩

/-- A placed rectangle. -/
structure Bounds where
  origin : Point
  size : Size
deriving DecidableEq, Repr, Inhabited

namespace Bounds

/-- The rectangle without extent at the top-left corner. -/
def empty : Bounds := ⟨.origin, .empty⟩

/-- The x coordinate of the right edge. -/
def right (b : Bounds) : Single := b.origin.x + b.size.width

/-- The y coordinate of the lower edge. -/
def bottom (b : Bounds) : Single := b.origin.y + b.size.height

/-- Whether a point lies inside.  The left and upper edges belong to the rectangle, the right and
lower ones do not. -/
def contains (b : Bounds) (p : Point) : Bool :=
  b.origin.x.le p.x && b.origin.y.le p.y && p.x.lt b.right && p.y.lt b.bottom

end Bounds

/-- A direction of layout. -/
inductive Axis where
  | horizontal
  | vertical
deriving DecidableEq, Repr

namespace Axis

/-- The extent along the axis. -/
def main : Axis → Size → Single
  | horizontal, s => s.width
  | vertical, s => s.height

/-- The extent across the axis. -/
def cross : Axis → Size → Single
  | horizontal, s => s.height
  | vertical, s => s.width

/-- The size with the given extents along and across the axis. -/
def size : Axis → Single → Single → Size
  | horizontal, along, across => ⟨along, across⟩
  | vertical, along, across => ⟨across, along⟩

/-- The coordinate along the axis. -/
def mainOf : Axis → Point → Single
  | horizontal, p => p.x
  | vertical, p => p.y

/-- The coordinate across the axis. -/
def crossOf : Axis → Point → Single
  | horizontal, p => p.y
  | vertical, p => p.x

/-- The point with the given coordinates along and across the axis. -/
def point : Axis → Single → Single → Point
  | horizontal, along, across => ⟨along, across⟩
  | vertical, along, across => ⟨across, along⟩

end Axis

end Panel
