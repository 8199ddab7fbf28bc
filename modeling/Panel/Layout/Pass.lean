import Panel.Component.Tree
import Panel.Layout.Basic
import Panel.Layout.Placed

/-!
# Layout passes

A pass computes the layout of a tree from the current variables.  It looks at the layout before only
for what it does not reach: such components keep their bounds and remember whether they were ever
placed.  What has to be done again is left as it is.
-/

namespace Panel

/-- The bounds of all components, by number, of a tree in a viewport.  Components that are gone, or
inside one that is, have none. -/
def ComponentTree.bounds (t : ComponentTree) (ctx : MeasureContext) (viewport : Size) :
    List (Option Bounds) :=
  if ctx.takesPart t.root then (t.root.measure ctx (.ofViewport viewport)).place .origin
  else List.replicate t.size none

/-- The state of a component after a pass, given what the pass found. -/
def Placement.next (p : Placement) (visibility : Visibility) : Option Bounds → Placement
  | some bounds => { p with bounds, visibility, phase := .placed }
  | none =>
    let phase := match p.phase with
      | .placed => .unplaced
      | other => other
    { p with visibility, phase }

/-- The layout of a tree after a pass. -/
def Layout.compute (layout : Layout) (t : ComponentTree) (ctx : MeasureContext) (viewport : Size) :
    Layout :=
  let before := if layout.size = t.size then layout else .fresh t.size
  let visibilities := t.nodes.map fun n => Modifiers.resolvedVisibility ctx.store n.modifiers
  ⟨List.zipWith (fun p (found : Visibility × Option Bounds) => p.next found.1 found.2)
    before.placements (visibilities.zip (t.bounds ctx viewport))⟩

end Panel
