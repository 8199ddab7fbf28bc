import Panel.Expression.Basic
import Panel.Store

/-!
# Evaluation

Operators on two integers work on 32-bit words: results wrap, and a division or remainder by zero is
zero.  As soon as one operand is a single-precision number both are, and the operator follows the
rules of such numbers.  Comparisons and logic answer one or zero, and logic always evaluates both
sides.

`evaluate` reads the variables of an expression and fails only where one of them cannot be read as a
scalar.
-/

namespace Panel

namespace BinaryOp

/-- The operator on two integers. -/
def onInts (op : BinaryOp) (a b : Int32) : Scalar :=
  match op with
  | add => .int (a + b)
  | sub => .int (a - b)
  | mul => .int (a * b)
  | div => .int (if b = 0 then 0 else a / b)
  | rem => .int (if b = 0 then 0 else a % b)
  | min => .int (if b < a then b else a)
  | max => .int (if a < b then b else a)
  | eq => .ofBool (a = b)
  | ne => .ofBool (a ≠ b)
  | lt => .ofBool (a < b)
  | le => .ofBool (a ≤ b)
  | gt => .ofBool (b < a)
  | ge => .ofBool (b ≤ a)
  | and => .ofBool (a ≠ 0 && b ≠ 0)
  | or => .ofBool (a ≠ 0 || b ≠ 0)

/-- The operator on two single-precision numbers. -/
def onSingles (op : BinaryOp) (a b : Single) : Scalar :=
  match op with
  | add => .float (a + b)
  | sub => .float (a - b)
  | mul => .float (a * b)
  | div => .float (a / b)
  | rem => .float (a.rem b)
  | min => .float (a.min b)
  | max => .float (a.max b)
  | eq => .ofBool (a.sameNumber b)
  | ne => .ofBool (!a.sameNumber b)
  | lt => .ofBool (a.lt b)
  | le => .ofBool (a.le b)
  | gt => .ofBool (b.lt a)
  | ge => .ofBool (b.le a)
  | and => .ofBool (!a.sameNumber .zero && !b.sameNumber .zero)
  | or => .ofBool (!a.sameNumber .zero || !b.sameNumber .zero)

/-- The operator on two scalars. -/
def apply (op : BinaryOp) : Scalar → Scalar → Scalar
  | .int a, .int b => op.onInts a b
  | a, b => op.onSingles a.toSingle b.toSingle

end BinaryOp

namespace UnaryOp

/-- The operator on a scalar. -/
def apply : UnaryOp → Scalar → Scalar
  | neg, .int a => .int (-a)
  | neg, .float a => .float (-a)
  | abs, .int a => .int (if a < 0 then -a else a)
  | abs, .float a => .float a.abs
  | not, a => .ofBool (!a.isTruthy)
  | toInt, a => .int a.toInt32
  | toFloat, a => .float a.toSingle

end UnaryOp

/-- The value of an expression over the current variables.  The left operand is read first. -/
def Expression.evaluate (store : Store) : Expression → Except StoreError Scalar
  | constant value => .ok value
  | reference id => store.getScalar id
  | binary op lhs rhs => do
    let a ← lhs.evaluate store
    let b ← rhs.evaluate store
    return op.apply a b
  | unary op operand => do
    return op.apply (← operand.evaluate store)

end Panel
