import Panel.Geometry
import Panel.Modifier
import Panel.Single.Integer

/-!
# Touches

A touch goes down at a position or comes up.  Where there is a mouse, its left button is the finger,
and the middle of the character cell under it is the position.
-/

namespace Panel

/-- A touch. -/
inductive TouchEvent where
  | down (position : Point)
  | up
deriving DecidableEq, Repr

namespace TouchEvent

/-- What the touch triggers. -/
def trigger : TouchEvent → TouchTrigger
  | down _ => .down
  | up => .up

/-- Where the touch is. -/
def position? : TouchEvent → Option Point
  | down position => some position
  | up => none

end TouchEvent

/-- A button of a mouse. -/
inductive MouseButton where
  | left
  | right
  | middle
deriving DecidableEq, Repr

/-- What a mouse does. -/
inductive MouseAction where
  | down (button : MouseButton)
  | up (button : MouseButton)
  | drag (button : MouseButton)
  | moved
  | scrollUp
  | scrollDown
  | scrollLeft
  | scrollRight
deriving DecidableEq, Repr

/-- Something a mouse does over a character cell. -/
structure MouseEvent where
  action : MouseAction
  column : UInt16
  row : UInt16
deriving DecidableEq, Repr

namespace MouseEvent

/-- The middle of the character cell, for cells of some size. -/
def position (e : MouseEvent) (cell : Size) : Point :=
  ⟨(.ofNat e.column.toNat + .half) * cell.width, (.ofNat e.row.toNat + .half) * cell.height⟩

/-- The touch that the event stands for.  Only the left button touches. -/
def touch? (e : MouseEvent) (cell : Size) : Option TouchEvent :=
  match e.action with
  | .down .left => some (.down (e.position cell))
  | .up .left => some .up
  | _ => none

end MouseEvent

end Panel
