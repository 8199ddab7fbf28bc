import Panel.Opcode
import Panel.Store

/-!
# Actions

An action is declared once and runs whenever a component that binds it is touched.  It writes one
variable, or asks the host to do something.  Writing the value that is already there is still a
write: the outcome names the variable and tells that nothing changed.
-/

namespace Panel

/-- What an action does. -/
inductive Effect where
  | setInteger (target : VariableId) (value : Int32)
  | setFloat (target : VariableId) (value : Single)
  /-- Copy the text of a variable. -/
  | copyText (target text : VariableId)
  /-- Copy the current value of a numeric variable, as an integer. -/
  | copyInteger (target expression : VariableId)
  /-- Pass a number on to the host. -/
  | host (request : UInt32)
deriving DecidableEq, Repr

/-- A declared action. -/
structure Action where
  id : ActionId
  effect : Effect
deriving DecidableEq, Repr

/-- What came of an action. -/
inductive Outcome where
  | written (target : VariableId) (changed : Bool)
  | host (request : UInt32)
deriving DecidableEq, Repr

namespace Effect

/-- The operation that declares an action with this effect. -/
def opcode : Effect → Opcode
  | setInteger .. => .valueIntegerChange
  | setFloat .. => .valueFloatChange
  | copyText .. => .valueStringChange
  | copyInteger .. => .valueIntegerExpressionChange
  | host _ => .hostAction

/-- The variable that the effect writes. -/
def target? : Effect → Option VariableId
  | setInteger target _ => some target
  | setFloat target _ => some target
  | copyText target _ => some target
  | copyInteger target _ => some target
  | host _ => none

/-- Write a variable and report it. -/
def writing (store : Store) (target : VariableId) (value : Value) :
    Except StoreError (Outcome × Store) := do
  let (changed, store) ← store.set target value
  return (.written target changed, store)

/-- Let the effect happen. -/
def apply (store : Store) : Effect → Except StoreError (Outcome × Store)
  | setInteger target value => writing store target (.int value)
  | setFloat target value => writing store target (.float value)
  | copyText target text => do writing store target (.text (← store.getText text))
  | copyInteger target expression => do
    writing store target (.int (← store.getScalar expression).toInt32)
  | host request => .ok (.host request, store)

end Effect

end Panel
