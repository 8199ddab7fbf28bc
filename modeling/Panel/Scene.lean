import Panel.Paint
import Panel.Layout.Pass
import Panel.Touch.Dispatch

/-!
# Scenes

A scene is content at play: its variables as they are now, its layout and the state of dispatch.
-/

namespace Panel

/-- Content at play. -/
structure Scene where
  content : Content
  layout : Layout
  dispatcher : Dispatcher
deriving Repr

namespace Scene

/-- The same scene with other variables. -/
def withStore (s : Scene) (store : Store) : Scene := { s with content := { s.content with store } }

/-- Recompute all derived variables. -/
def refresh (s : Scene) : Scene := s.withStore (s.content.store.refreshed s.content.derived)

/-- Look again at who reads what. -/
def reindex (s : Scene) : Scene :=
  { s with dispatcher := { s.dispatcher with dependencies := .of s.content } }

/-- Lay the tree out in a viewport. -/
def layOut (s : Scene) (viewport : Size) (textMeasure : TextMeasure) : Scene :=
  { s with layout := s.layout.compute s.content.tree ⟨s.content.store, textMeasure⟩ viewport }

/-- Ask for components to be laid out and painted again. -/
def invalidate (s : Scene) (components : List Nat) : Scene :=
  { s with layout := s.layout.invalidate s.content.tree components }

/-- All calls for drawing the scene. -/
def paint (s : Scene) : List PaintCall := s.content.tree.paint s.content.store s.layout

/-- The topmost drawn component at a point. -/
def hit? (s : Scene) (p : Point) : Option Nat := s.content.tree.hit? s.layout p

/-- Whether a touch of some trigger can be delivered to a component: it is drawn, and binds actions
to the trigger. -/
def accepts (s : Scene) (index : Nat) (trigger : TouchTrigger) : Bool :=
  s.content.tree.isDrawn s.layout index && !(s.content.tree.actionsFor index trigger).isEmpty

/-- The scene after a touch on a node with some number, which can be delivered to it. -/
def deliver (s : Scene) (component : ComponentId) (event : TouchEvent) (actions : List ActionId) :
    Scene :=
  let run := s.content.runActions component event actions
  let d := s.dispatcher
  let affected := d.dependencies.affectedBy run.mutated
  let record : Invalidation := ⟨d.sequence + 1, component, event.trigger, run.mutated, affected⟩
  let dispatcher := { d with
    sequence := d.sequence + 1
    pending := d.pending ++ [record]
    hostEvents := d.hostEvents ++ run.hostEvents }
  { s.withStore run.store with dispatcher }.invalidate affected

/-- The scene after a touch on a component, unless the touch cannot be delivered. -/
def dispatch? (s : Scene) (index : Nat) (event : TouchEvent) : Option Scene :=
  match s.content.tree.node? index with
  | none => none
  | some n =>
    if s.accepts index event.trigger then
      some (s.deliver n.id event (Modifiers.actionsFor n.modifiers event.trigger))
    else none

/-- The records that are pending, and the scene without them. -/
def takeInvalidations (s : Scene) : List Invalidation × Scene :=
  (s.dispatcher.pending, { s with dispatcher := { s.dispatcher with pending := [] } })

/-- The requests that are queued for the host, and the scene without them. -/
def takeHostEvents (s : Scene) : List HostEvent × Scene :=
  (s.dispatcher.hostEvents, { s with dispatcher := { s.dispatcher with hostEvents := [] } })

end Scene

end Panel
