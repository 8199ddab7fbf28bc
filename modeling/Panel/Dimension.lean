import Panel.Single.Basic

/-!
# Requested sizes and padding

A component asks for its size along each axis separately: as large as its content, a fixed number
of units, or all the space there is.
-/

namespace Panel

/-- Requested size along one axis. -/
inductive Dimension where
  /-- The size of the content. -/
  | wrap
  /-- A number of layout units. -/
  | fixed (units : Single)
  /-- All definite space. -/
  | fill
deriving DecidableEq, Repr, Inhabited

namespace Dimension

/-- The number that stands for the kind of request. -/
def code : Dimension → UInt8
  | wrap => 0
  | fixed _ => 1
  | fill => 2

/-- The units asked for; zero where the request names none. -/
def units : Dimension → Single
  | fixed units => units
  | _ => .zero

/-- The request of a kind, with the units that only a fixed one uses. -/
def ofCode? (code : UInt8) (units : Single) : Option Dimension :=
  match code with
  | 0 => some wrap
  | 1 => some (fixed units)
  | 2 => some fill
  | _ => none

@[simp] theorem ofCode?_code (d : Dimension) : ofCode? d.code d.units = some d := by
  cases d <;> rfl

end Dimension

/-- Empty space around a component's content. -/
structure Padding where
  left : Single
  top : Single
  right : Single
  bottom : Single
deriving DecidableEq, Repr, Inhabited

namespace Padding

/-- No padding. -/
def none : Padding := ⟨.zero, .zero, .zero, .zero⟩

/-- Side by side sum. -/
def add (p q : Padding) : Padding :=
  ⟨p.left + q.left, p.top + q.top, p.right + q.right, p.bottom + q.bottom⟩

/-- Padding on the left and right together. -/
def horizontal (p : Padding) : Single := p.left + p.right

/-- Padding above and below together. -/
def vertical (p : Padding) : Single := p.top + p.bottom

end Padding

end Panel
