import Panel.Action
import Panel.Component.Basic
import Panel.Derived

/-!
# Operations

A document is a list of operations: declarations of variables, components and actions.  A component
operation takes the modifiers before it, and opens a scope if it is a container; the operations up
to the matching container end belong to that scope.
-/

namespace Panel

/-- One instruction of a document. -/
inductive Operation where
  /-- Declare a variable with a value. -/
  | value (id : VariableId) (value : Value)
  /-- Make a variable known to the host. -/
  | name (id : VariableId) (name : String)
  /-- Declare a derived variable. -/
  | derived (declaration : DerivedVariable)
  /-- Declare a component, opening its scope if it is a container. -/
  | component (id : ComponentId) (kind : ComponentKind)
  /-- Close the innermost scope. -/
  | containerEnd
  /-- Decorate the next component. -/
  | modifier (modifier : Modifier)
  /-- Declare an action. -/
  | action (action : Action)
deriving DecidableEq, Repr

/-- The operation that declares a value of a kind. -/
def Kind.opcode : Kind → Opcode
  | int => .integerValue
  | float => .floatValue
  | text => .textData
  | color => .colorValue
  | list => .listValue

/-- The operation that declares a variable with a recipe. -/
def Recipe.opcode : Recipe → Opcode
  | integer _ => .integerExpression
  | float _ => .floatExpression
  | textLookup .. => .textLookup
  | textFromNumber .. => .textFromNumber

/-- The operation that declares a component of a kind. -/
def ComponentKind.opcode : ComponentKind → Opcode
  | row _ => .rowStart
  | column _ => .columnStart
  | box _ => .boxStart
  | text _ => .text
  | spacer => .spacer

/-- The operation that a modifier is. -/
def Modifier.opcode : Modifier → Opcode
  | width _ => .width
  | height _ => .height
  | padding _ => .padding
  | background _ => .background
  | border .. => .border
  | visibility _ => .visibility
  | touchAction .. => .touchAction

/-- The code of an operation. -/
def Operation.opcode : Operation → Opcode
  | value _ v => v.kind.opcode
  | name .. => .namedVariable
  | derived d => d.recipe.opcode
  | component _ kind => kind.opcode
  | containerEnd => .containerEnd
  | modifier m => m.opcode
  | action a => a.effect.opcode

end Panel
