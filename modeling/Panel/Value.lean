import Panel.Color
import Panel.Decimal.Shortest
import Panel.Identifier

/-!
# Values

A variable holds an integer, a number, a text, a color or a list of variables, and keeps its kind
for life.  `Scalar` is the numeric part, on which expressions work.

* equality of values is equality of content, numbers by bit pattern;
* `Value.agrees` compares numbers as numbers, and decides whether a write is a change.
-/

namespace Panel

/-- The kind of a variable. -/
inductive Kind where
  | int
  | float
  | text
  | color
  | list
deriving DecidableEq, Repr

/-- The word for a kind. -/
def Kind.name : Kind → String
  | int => "int"
  | float => "float"
  | text => "text"
  | color => "color"
  | list => "list"

/-- An integer or a number. -/
inductive Scalar where
  | int (value : Int32)
  | float (value : Single)
deriving DecidableEq, Repr, Inhabited

namespace Scalar

/-- Truth as one or zero. -/
def ofBool (b : Bool) : Scalar := .int (if b then 1 else 0)

/-- The number, rounded if an integer does not fit. -/
def toSingle : Scalar → Single
  | int v => .ofInt32 v
  | float v => v

/-- The integer, with the fraction dropped. -/
def toInt32 : Scalar → Int32
  | int v => v
  | float v => v.toInt32

/-- Whether the scalar counts as true: anything but zero, a not-a-number included. -/
def isTruthy : Scalar → Bool
  | int v => decide (v ≠ 0)
  | float v => !v.sameNumber .zero

/-- Whether the scalar is a single-precision number. -/
def isFloat : Scalar → Bool
  | int _ => false
  | float _ => true

/-- The decimal text of a scalar: a number has the fewest digits that read back. -/
def text : Scalar → String
  | int v => Decimal.signed v.toInt
  | float v => Decimal.shortest v

end Scalar

/-- What a variable holds. -/
inductive Value where
  | int (value : Int32)
  | float (value : Single)
  | text (value : String)
  | color (value : Color)
  /-- The names of other variables, in order. -/
  | list (items : List VariableId)
deriving DecidableEq, Repr

namespace Value

/-- The kind of a value. -/
def kind : Value → Kind
  | int _ => .int
  | float _ => .float
  | text _ => .text
  | color _ => .color
  | list _ => .list

/-- The value that stands in for one that cannot be had. -/
def default : Kind → Value
  | .int => int 0
  | .float => float .zero
  | .text => text ""
  | .color => color .transparent
  | .list => list []

/-- The scalar that a value is, if it is one. -/
def scalar? : Value → Option Scalar
  | int v => some (.int v)
  | float v => some (.float v)
  | _ => none

/-- Whether two values show no difference: numbers that are equal, otherwise the same content.  A
not-a-number agrees with nothing. -/
def agrees : Value → Value → Bool
  | float x, float y => x.sameNumber y
  | v, w => decide (v = w)

end Value

end Panel
