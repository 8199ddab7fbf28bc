import Mathlib.Data.List.Destutter
import Panel.Scene

/-!
# Touches in place

A touch can be delivered by changing a scene step after step: the derived variables, then one action
after the other with the derived variables again after each write, then what has to be done again,
and last the record.  A touch that is not delivered is turned away before the first of these steps.
-/

namespace Panel

/-- Numbers in ascending order, once each: sorted, without any that equals the one before it. -/
def ascending (numbers : List Nat) : List Nat := numbers.mergeSort.destutter (· ≠ ·)

namespace Scene

/-- Queue a request to the host. -/
def enqueue (s : Scene) (event : HostEvent) : Scene :=
  { s with dispatcher := { s.dispatcher with hostEvents := s.dispatcher.hostEvents ++ [event] } }

/-- Count one more touch that is delivered. -/
def count (s : Scene) : Scene :=
  { s with dispatcher := { s.dispatcher with sequence := s.dispatcher.sequence + 1 } }

/-- Append a record to those that are pending. -/
def note (s : Scene) (record : Invalidation) : Scene :=
  { s with dispatcher := { s.dispatcher with pending := s.dispatcher.pending ++ [record] } }

/-- Run one action.  The variables written so far are given, and returned with the one that the
action writes. -/
def act (component : ComponentId) (event : TouchEvent) (mutated : List VariableId)
    (id : ActionId) : StateM Scene (List VariableId) := do
  let s ← get
  match s.content.action? id with
  | none => return mutated
  | some action =>
    match action.effect.apply s.content.store with
    | .ok (.written target _, store) =>
      set (s.withStore store)
      modify refresh
      return VariableId.addTo mutated target
    | .ok (.host request, store) =>
      set (s.withStore store)
      modify (·.enqueue ⟨request, component, event.position?⟩)
      return mutated
    | .error _ => return mutated

/-- Ask for what depends on the variables that a touch has written to be done again, and append the
record of the touch. -/
def conclude (component : ComponentId) (event : TouchEvent) (mutated : List VariableId) :
    StateM Scene Unit := do
  let affected := ascending (mutated.flatMap (← get).dispatcher.dependencies.affected)
  modify (·.invalidate affected)
  modify count
  let record : Invalidation :=
    ⟨(← get).dispatcher.sequence, component, event.trigger, mutated, affected⟩
  modify (·.note record)

/-- Carry out a touch on a node that binds some actions to it. -/
def carryOut (component : ComponentId) (event : TouchEvent) (bound : List ActionId) :
    StateM Scene Unit := do
  modify refresh
  let mutated ← bound.foldlM (act component event) []
  conclude component event mutated

/-- Deliver a touch to the component with a number.  The answer tells whether it can be. -/
def dispatch (index : Nat) (event : TouchEvent) : StateM Scene Bool := do
  let s ← get
  match s.content.tree.node? index with
  | none => return false
  | some n =>
    if !s.content.tree.isDrawn s.layout index then return false
    else
      let bound := Modifiers.actionsFor n.modifiers event.trigger
      if bound.isEmpty then return false
      else
        carryOut n.id event bound
        return true

end Scene

end Panel
