import Panel.Component.Tree
import Panel.Layout.Basic

/-!
# Hit testing

A touch at a point belongs to the component that was painted there last.  It is handled by that
component, or by the nearest one above it that binds actions to the trigger.
-/

namespace Panel

/-- Whether a component is there to be seen, and every component above it. -/
def ComponentTree.isDrawn (t : ComponentTree) (l : Layout) (index : Nat) : Bool :=
  l.isShown index && (t.ancestors index).all l.isShown

/-- The topmost drawn component at a point.  Later components are painted over earlier ones. -/
def ComponentTree.hit? (t : ComponentTree) (l : Layout) (p : Point) : Option Nat :=
  (List.range t.size).reverse.find? fun i => (l.bounds i).contains p && t.isDrawn l i

/-- The actions that a component binds to a trigger. -/
def ComponentTree.actionsFor (t : ComponentTree) (index : Nat) (trigger : TouchTrigger) :
    List ActionId :=
  match t.node? index with
  | some n => Modifiers.actionsFor n.modifiers trigger
  | none => []

/-- The nearest component, from one upwards, that binds actions to a trigger. -/
def ComponentTree.handler? (t : ComponentTree) (index : Nat) (trigger : TouchTrigger) :
    Option Nat :=
  (index :: t.ancestors index).find? fun i => !(t.actionsFor i trigger).isEmpty

end Panel
