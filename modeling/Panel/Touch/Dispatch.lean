import Panel.Dependency
import Panel.Layout.Basic
import Panel.Touch.Event
import Panel.Touch.Hit

/-!
# Dispatch

A touch on a component runs the actions that the component binds, one after the other.  Derived
variables are up to date whenever an action reads them.  An action that fails is skipped; a request
to the host is queued.  Every delivered touch leaves one record of what it wrote and which
components depend on that, and asks for those to be laid out and painted again.
-/

namespace Panel

/-- The record of a delivered touch. -/
structure Invalidation where
  /-- The position in the sequence of delivered touches, from one.  It has no bound, and is what a
  count of 64 bits would be for the first `2 ^ 64 - 1` touches. -/
  sequence : Nat
  component : ComponentId
  trigger : TouchTrigger
  /-- The variables written, in the order of their first write. -/
  mutated : List VariableId
  /-- The components that depend on them, by number. -/
  affected : List Nat
deriving DecidableEq, Repr

/-- A request to the host. -/
structure HostEvent where
  request : UInt32
  component : ComponentId
  /-- Where the touch was, if it went down. -/
  position : Option Point
deriving DecidableEq, Repr

/-- The state of dispatch. -/
structure Dispatcher where
  dependencies : DependencyIndex
  /-- The records that no update has taken yet. -/
  pending : List Invalidation
  /-- The requests that the host has not taken yet. -/
  hostEvents : List HostEvent
  /-- The number of touches delivered so far.  It has no bound, and is what a count of 64 bits would
  be as long as fewer than `2 ^ 64` touches are delivered. -/
  sequence : Nat
deriving DecidableEq, Repr

namespace Dispatcher

/-- Before the first touch. -/
def new (dependencies : DependencyIndex) : Dispatcher := ⟨dependencies, [], [], 0⟩

/-- Forget everything but the dependencies. -/
def reset (d : Dispatcher) : Dispatcher := .new d.dependencies

end Dispatcher

/-! ## What to do again -/

/-- Ask for components to be done again: each with everything below it and everything above it.  The
root is always painted again. -/
def Layout.invalidate (l : Layout) (t : ComponentTree) (components : List Nat) : Layout :=
  let touched := components.foldl
    (fun l i => (l.markAll (t.subtree i) .all).markAll (t.ancestors i) .all) l
  touched.mark 0 .paintOnly

/-! ## Running actions -/

/-- What came of the actions so far. -/
structure ActionRun where
  store : Store
  mutated : List VariableId
  hostEvents : List HostEvent
deriving DecidableEq, Repr

/-- Run one action.  A name without an action does nothing. -/
def Content.runAction (content : Content) (component : ComponentId) (event : TouchEvent)
    (run : ActionRun) (id : ActionId) : ActionRun :=
  match content.action? id with
  | none => run
  | some action =>
    match action.effect.apply run.store with
    | .ok (.written target _, store) =>
      { run with
        store := store.refreshed content.derived
        mutated := VariableId.addTo run.mutated target }
    | .ok (.host request, _) =>
      { run with hostEvents := run.hostEvents ++ [⟨request, component, event.position?⟩] }
    | .error _ => run

/-- Run actions one after the other. -/
def Content.runActions (content : Content) (component : ComponentId) (event : TouchEvent)
    (ids : List ActionId) : ActionRun :=
  ids.foldl (content.runAction component event) ⟨content.store.refreshed content.derived, [], []⟩

end Panel
