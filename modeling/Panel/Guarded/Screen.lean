import Panel.Guarded.Store
import Panel.Layout.Arrays
import Panel.Paint
import Panel.Touch.Hit

/-!
# Screens

Components in an arena, and their layout in arrays.  What is looked up outside of either is nothing,
or a default.  Painting goes from component to component by links; it has no answer if a variable is
not in its slot, or if components are nested more deeply than it may go.

* `Screen.hit?` and `Screen.handler?` find components, `Screen.invalidate` marks them;
* `Screen.paint?` makes the calls for all of them.
-/

namespace Panel

/-! ## Looking at the arrays -/

namespace LayoutArrays

/-- The numbers of entries of the arrays. -/
def lengths (a : LayoutArrays) : List Nat :=
  [a.x.length, a.y.length, a.width.length, a.height.length, a.visibility.length, a.phase.length,
    a.dirty.length]

/-- Where a component is. -/
def boundsAt (a : LayoutArrays) (index : Nat) : Bounds :=
  ⟨⟨a.x[index]?.getD .zero, a.y[index]?.getD .zero⟩, a.sizeAt index⟩

/-- Whether a component by itself is there to be seen. -/
def isShownAt (a : LayoutArrays) (index : Nat) : Bool :=
  a.phaseAt index = .placed && (a.visibilityAt index).isDrawn

/-- Whether anything has to be done again. -/
def anyDirty (a : LayoutArrays) : Bool :=
  (List.range a.phase.length).any fun i => a.dirty[i]?.any fun flags => !flags.isEmpty

/-- Ask for more to be done again for a component, if there is one with this number. -/
def mark (a : LayoutArrays) (index : Nat) (flags : DirtyFlags) : LayoutArrays :=
  { a with dirty := a.dirty.modify index (·.union flags) }

/-- Ask for more to be done again for some components. -/
def markAll (a : LayoutArrays) (indices : List Nat) (flags : DirtyFlags) : LayoutArrays :=
  indices.foldl (fun a index => a.mark index flags) a

/-- Nothing has to be done again. -/
def clearDirty (a : LayoutArrays) : LayoutArrays := { a with dirty := a.dirty.map fun _ => .none }

end LayoutArrays

/-! ## Calls for drawing -/

/-- The calls for a modifier of a component with some bounds. -/
def Modifier.paint? (store : IndexedStore) (bounds : Bounds) : Modifier → Option (List PaintCall)
  | background color => do
    return [.style (.fill (← store.resolveColor? color)), .rect bounds]
  | border thickness color => do
    return [.style (.outline (← store.resolveColor? color) thickness), .path bounds.outline]
  | _ => some []

/-- The calls for a piece of text. -/
def TextContent.paint? (store : IndexedStore) (content : TextContent) (origin : Point) :
    Option (List PaintCall) := do
  let text ← store.resolveText? content.text
  let color ← store.resolveColor? content.color
  return [.style ⟨color, .zero, content.weight, content.italic⟩, .text text origin]

/-- The calls for a component by itself. -/
def Node.paint? (store : IndexedStore) (bounds : Bounds) (n : Node) :
    Option (List PaintCall) := do
  let decoration ← n.modifiers.mapM (Modifier.paint? store bounds)
  let content ← (match n.kind with
    | .text content =>
      let padding := Modifiers.padding n.modifiers
      content.paint? store ⟨bounds.origin.x + padding.left, bounds.origin.y + padding.top⟩
    | _ => some [])
  return decoration.flatten ++ content

/-- Components and their layout. -/
structure Screen where
  nodes : List Node
  layout : LayoutArrays
deriving DecidableEq, Repr

/-- A tree and its layout, as a screen. -/
def ComponentTree.screen (t : ComponentTree) (l : Layout) : Screen := ⟨t.nodes, l.arrays⟩

namespace Screen

/-! ## Links -/

/-- The number of the component with a name. -/
def indexOf? (s : Screen) (id : ComponentId) : Option Nat := s.nodes.findIdx? fun n => n.id = id

/-- The number of a component and of all components below it. -/
def subtree (s : Screen) (index : Nat) : List Nat :=
  ComponentTree.walk s.nodes s.nodes.length [index]

/-- The numbers of all components above one, the nearest first. -/
def ancestors (s : Screen) (index : Nat) : List Nat :=
  ComponentTree.climb s.nodes s.nodes.length (s.nodes[index]?.bind (·.parent))

/-- Ask for components to be done again: each with everything below it and everything above it.  The
root is always painted again. -/
def invalidate (s : Screen) (components : List Nat) : Screen :=
  let touched := components.foldl
    (fun a i => (a.markAll (s.subtree i) .all).markAll (s.ancestors i) .all) s.layout
  { s with layout := touched.mark 0 .paintOnly }

/-! ## Hits -/

/-- Whether a component is there to be seen, and every component above it. -/
def isDrawn (s : Screen) (index : Nat) : Bool :=
  s.layout.isShownAt index && (s.ancestors index).all s.layout.isShownAt

/-- The topmost drawn component at a point. -/
def hit? (s : Screen) (p : Point) : Option Nat :=
  (List.range s.nodes.length).reverse.find? fun i =>
    (s.layout.boundsAt i).contains p && s.isDrawn i

/-- The actions that a component binds to a trigger. -/
def actionsFor (s : Screen) (index : Nat) (trigger : TouchTrigger) : List ActionId :=
  (s.nodes[index]?.map fun n => Modifiers.actionsFor n.modifiers trigger).getD []

/-- The nearest component, from one upwards, that binds actions to a trigger. -/
def handler? (s : Screen) (index : Nat) (trigger : TouchTrigger) : Option Nat :=
  (index :: s.ancestors index).find? fun i => !(s.actionsFor i trigger).isEmpty

/-! ## Painting -/

/-- The calls for each component that is painted, from the one with a number downwards, with others
nested in it to some depth. -/
def paintFrom? (s : Screen) (store : IndexedStore) :
    (depth : Nat) → Nat → Option (List (List PaintCall))
  | 0, _ => none
  | depth + 1, index =>
    match s.nodes[index]? with
    | none => some []
    | some n =>
      if s.layout.isShownAt index then do
        let own ← n.paint? store (s.layout.boundsAt index)
        let below ← n.children.mapM (s.paintFrom? store depth)
        return own :: below.flatten
      else some []

/-- All calls, and the number of components that are painted. -/
def paint? (s : Screen) (store : IndexedStore) : Option (List PaintCall × Nat) := do
  let parts ← s.paintFrom? store (s.nodes.length + 1) 0
  return (parts.flatten, parts.length)

end Screen

end Panel
