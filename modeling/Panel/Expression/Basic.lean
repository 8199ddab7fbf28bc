import Panel.Value

/-!
# Expressions

An expression computes a scalar from constants and variables with binary and unary operators.  Its
postfix form lists the nodes of the tree, operands before their operator.

* `reads` lists what an expression reads, each variable once, in the order of first visit;
* `tokens` is the postfix form, and `ofTokens?` rebuilds the tree from it with a stack.
-/

namespace Panel

/-- Operators with two operands. -/
inductive BinaryOp where
  | add | sub | mul | div | rem | min | max | eq | ne | lt | le | gt | ge | and | or
deriving DecidableEq, Repr

namespace BinaryOp

/-- All binary operators, by code. -/
def all : List BinaryOp := [add, sub, mul, div, rem, min, max, eq, ne, lt, le, gt, ge, and, or]

/-- The number that stands for an operator. -/
def code : BinaryOp → UInt8
  | add => 0
  | sub => 1
  | mul => 2
  | div => 3
  | rem => 4
  | min => 5
  | max => 6
  | eq => 7
  | ne => 8
  | lt => 9
  | le => 10
  | gt => 11
  | ge => 12
  | and => 13
  | or => 14

/-- The operator that a number stands for. -/
def ofCode? : UInt8 → Option BinaryOp
  | 0 => some add
  | 1 => some sub
  | 2 => some mul
  | 3 => some div
  | 4 => some rem
  | 5 => some min
  | 6 => some max
  | 7 => some eq
  | 8 => some ne
  | 9 => some lt
  | 10 => some le
  | 11 => some gt
  | 12 => some ge
  | 13 => some and
  | 14 => some or
  | _ => none

@[simp] theorem ofCode?_code (op : BinaryOp) : ofCode? op.code = some op := by
  cases op <;> rfl

/-- The word for an operator. -/
def name : BinaryOp → String
  | add => "add"
  | sub => "sub"
  | mul => "mul"
  | div => "div"
  | rem => "rem"
  | min => "min"
  | max => "max"
  | eq => "eq"
  | ne => "ne"
  | lt => "lt"
  | le => "le"
  | gt => "gt"
  | ge => "ge"
  | and => "and"
  | or => "or"

end BinaryOp

/-- Operators with one operand. -/
inductive UnaryOp where
  | neg | abs | not | toInt | toFloat
deriving DecidableEq, Repr

namespace UnaryOp

/-- All unary operators, by code. -/
def all : List UnaryOp := [neg, abs, not, toInt, toFloat]

/-- The number that stands for an operator. -/
def code : UnaryOp → UInt8
  | neg => 0
  | abs => 1
  | not => 2
  | toInt => 3
  | toFloat => 4

/-- The operator that a number stands for. -/
def ofCode? : UInt8 → Option UnaryOp
  | 0 => some neg
  | 1 => some abs
  | 2 => some not
  | 3 => some toInt
  | 4 => some toFloat
  | _ => none

@[simp] theorem ofCode?_code (op : UnaryOp) : ofCode? op.code = some op := by
  cases op <;> rfl

/-- The word for an operator. -/
def name : UnaryOp → String
  | neg => "neg"
  | abs => "abs"
  | not => "not"
  | toInt => "to_int"
  | toFloat => "to_float"

end UnaryOp

/-- A computation over scalars and variables. -/
inductive Expression where
  | constant (value : Scalar)
  | reference (id : VariableId)
  | binary (op : BinaryOp) (lhs rhs : Expression)
  | unary (op : UnaryOp) (operand : Expression)
deriving DecidableEq, Repr

namespace Expression

/-- Append the variables of an expression to those already visited. -/
def visit : Expression → List VariableId → List VariableId
  | constant _, seen => seen
  | reference id, seen => VariableId.addTo seen id
  | binary _ lhs rhs, seen => rhs.visit (lhs.visit seen)
  | unary _ operand, seen => operand.visit seen

/-- Every variable that an expression reads, once each, in the order of first visit. -/
def reads (e : Expression) : List VariableId := e.visit []

/-- The number of nodes of the tree. -/
def nodeCount : Expression → Nat
  | constant _ => 1
  | reference _ => 1
  | binary _ lhs rhs => 1 + lhs.nodeCount + rhs.nodeCount
  | unary _ operand => 1 + operand.nodeCount

end Expression

/-! ## Postfix form -/

/-- One node of an expression, without its operands. -/
inductive Token where
  | int (value : Int32)
  | float (value : Single)
  | reference (id : VariableId)
  | binary (op : BinaryOp)
  | unary (op : UnaryOp)
deriving DecidableEq, Repr

/-- Let a node take its operands from a stack of finished expressions, the last one on top, and put
the result there. -/
def Token.push? : Token → List Expression → Option (List Expression)
  | int v, stack => some (.constant (.int v) :: stack)
  | float v, stack => some (.constant (.float v) :: stack)
  | reference id, stack => some (.reference id :: stack)
  | binary op, rhs :: lhs :: stack => some (.binary op lhs rhs :: stack)
  | unary op, operand :: stack => some (.unary op operand :: stack)
  | _, _ => none

namespace Expression

/-- The nodes of an expression, operands before their operator. -/
def tokens : Expression → List Token
  | constant (.int v) => [.int v]
  | constant (.float v) => [.float v]
  | reference id => [.reference id]
  | binary op lhs rhs => lhs.tokens ++ rhs.tokens ++ [.binary op]
  | unary op operand => operand.tokens ++ [.unary op]

/-- The expression with a postfix form, if there is one. -/
def ofTokens? (tokens : List Token) : Option Expression :=
  match tokens.foldlM (fun stack token => token.push? stack) [] with
  | some [e] => some e
  | _ => none

/-- Each node is one token. -/
theorem length_tokens (e : Expression) : e.tokens.length = e.nodeCount := by
  induction e with
  | constant v => cases v <;> rfl
  | reference id => rfl
  | binary op lhs rhs ihl ihr => simp [tokens, nodeCount, ihl, ihr]; omega
  | unary op operand ih => simp [tokens, nodeCount, ih]; omega

/-- Running the postfix form of an expression puts the expression on the stack. -/
theorem foldlM_tokens (e : Expression) (stack : List Expression) :
    e.tokens.foldlM (fun stack token => token.push? stack) stack = some (e :: stack) := by
  induction e generalizing stack with
  | constant v => cases v <;> rfl
  | reference id => rfl
  | binary op lhs rhs ihl ihr => simp [tokens, ihl, ihr]; rfl
  | unary op operand ih => simp [tokens, ih]; rfl

/-- Reading the postfix form of an expression gives the expression back. -/
@[simp] theorem ofTokens?_tokens (e : Expression) : ofTokens? e.tokens = some e := by
  simp [ofTokens?, foldlM_tokens]

end Expression

end Panel
