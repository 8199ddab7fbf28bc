import Panel.Dependency
import Panel.Guarded.Layout
import Panel.Guarded.Screen
import Panel.Touch.Dispatch

/-!
# Stages

A stage is content at play with its components on a screen and its variables in slots that an index
leads to.  What is done on it has no answer if one of the slots or arrays is left.

* `Stage.begin?` is the stage before anything happens;
* `Stage.refresh?`, `Stage.layOut?` and `Stage.dispatch?` are the ways on.
-/

namespace Panel

/-- Content at play, its components on a screen. -/
structure Stage where
  screen : Screen
  store : IndexedStore
  derived : List DerivedVariable
  actions : List Action
  dispatcher : Dispatcher

/-- What came of the actions so far. -/
structure StageRun where
  store : IndexedStore
  mutated : List VariableId
  hostEvents : List HostEvent

/-- The index of components and derived variables over a store. -/
def DependencyIndex.of? (nodes : List Node) (derived : List DerivedVariable)
    (store : IndexedStore) : Option DependencyIndex := do
  let reads ← derived.mapM fun d => return (d.id, ← d.recipe.dependencies? store)
  return ⟨nodes.map Node.reads, reads⟩

namespace Stage

/-! ## Frames -/

/-- Components, variables and actions that nothing has happened to: derived variables are up to
date, nothing is laid out. -/
def begin? (nodes : List Node) (store : IndexedStore) (derived : List DerivedVariable)
    (actions : List Action) : Option Stage := do
  let store ← store.refresh? derived
  let dependencies ← DependencyIndex.of? nodes derived store
  return ⟨⟨nodes, .fresh nodes.length⟩, store, derived, actions, .new dependencies⟩

/-- Recompute all derived variables. -/
def refresh? (s : Stage) : Option Stage := do
  return { s with store := ← s.store.refresh? s.derived }

/-- Look again at who reads what. -/
def reindex? (s : Stage) : Option Stage := do
  let dependencies ← DependencyIndex.of? s.screen.nodes s.derived s.store
  return { s with dispatcher := { s.dispatcher with dependencies } }

/-- Lay the components out in a viewport. -/
def layOut? (s : Stage) (viewport : Size) (textMeasure : TextMeasure) : Option Stage := do
  let ctx : PassContext := ⟨s.screen.nodes, s.store, textMeasure⟩
  let layout ← ctx.pass? s.screen.layout viewport
  return { s with screen := { s.screen with layout } }

/-- Nothing has to be done again. -/
def clearDirty (s : Stage) : Stage :=
  { s with screen := { s.screen with layout := s.screen.layout.clearDirty } }

/-- Ask for components to be laid out and painted again. -/
def invalidate (s : Stage) (components : List Nat) : Stage :=
  { s with screen := s.screen.invalidate components }

/-- The records that are pending, and the stage without them. -/
def takeInvalidations (s : Stage) : List Invalidation × Stage :=
  (s.dispatcher.pending, { s with dispatcher := { s.dispatcher with pending := [] } })

/-- The requests that are queued for the host, and the stage without them. -/
def takeHostEvents (s : Stage) : List HostEvent × Stage :=
  (s.dispatcher.hostEvents, { s with dispatcher := { s.dispatcher with hostEvents := [] } })

/-! ## Touches -/

/-- Run one action.  A name without an action does nothing. -/
def runAction? (s : Stage) (component : ComponentId) (event : TouchEvent) (run : StageRun)
    (id : ActionId) : Option StageRun :=
  match s.actions.find? fun a => a.id = id with
  | none => some run
  | some action => do
    match ← (action.effect.perform? run.store).run with
    | .ok (.written target _, store) =>
      return { run with
        store := ← store.refresh? s.derived
        mutated := VariableId.addTo run.mutated target }
    | .ok (.host request, _) =>
      return { run with hostEvents := run.hostEvents ++ [⟨request, component, event.position?⟩] }
    | .error _ => return run

/-- Run actions one after the other. -/
def runActions? (s : Stage) (component : ComponentId) (event : TouchEvent) (ids : List ActionId) :
    Option StageRun := do
  ids.foldlM (s.runAction? component event) ⟨← s.store.refresh? s.derived, [], []⟩

/-- The stage after a touch on a node, which can be delivered to it. -/
def deliver? (s : Stage) (component : ComponentId) (event : TouchEvent)
    (actions : List ActionId) : Option Stage := do
  let run ← s.runActions? component event actions
  let d := s.dispatcher
  let affected := d.dependencies.affectedBy run.mutated
  let record : Invalidation := ⟨d.sequence + 1, component, event.trigger, run.mutated, affected⟩
  let dispatcher := { d with
    sequence := d.sequence + 1
    pending := d.pending ++ [record]
    hostEvents := d.hostEvents ++ run.hostEvents }
  return { s with store := run.store, dispatcher }.invalidate affected

/-- The stage after a touch on the component with a number, and whether it was delivered. -/
def dispatch? (s : Stage) (index : Nat) (event : TouchEvent) : Option (Bool × Stage) :=
  match s.screen.nodes[index]? with
  | none => some (false, s)
  | some n =>
    let actions := Modifiers.actionsFor n.modifiers event.trigger
    if s.screen.isDrawn index && !actions.isEmpty then do
      return (true, ← s.deliver? n.id event actions)
    else some (false, s)

/-! ## Variables -/

/-- The stage after a write that is a change. -/
def written? (s : Stage) (id : VariableId) (kind : Kind) : Option Stage := do
  let reindexed ← (if kind = .list then s.reindex? else some s)
  let s ← reindexed.refresh?
  return s.invalidate (s.dispatcher.dependencies.affected id)

/-- Write a variable that the host knows by a text.  The answer tells whether its value changed. -/
def setNamed? (s : Stage) (name : String) (value : Value) : Checked StoreError (Bool × Stage) :=
  match s.store.lookupName name with
  | none => throw (.unknownName name)
  | some id => do
    let (changed, store) ← s.store.write? id value
    if changed then
      return (true, ← Stage.written? { s with store } id value.kind)
    else
      return (false, { s with store })

end Stage

end Panel
