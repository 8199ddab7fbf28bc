import Panel.Geometry
import Panel.Visibility

/-!
# Layouts

A layout says of each component of a tree, by number, where it is, whether it shows, how far the
last pass took it, and what has to be done again.  A component without an entry is nowhere, and
nothing has to be done about it.
-/

namespace Panel

/-- How far layout has taken a component. -/
inductive Phase where
  /-- Never reached by a pass. -/
  | unmeasured
  /-- Given a size but no position. -/
  | measured
  /-- Positioned by the last pass. -/
  | placed
  /-- Positioned by an earlier pass and left out of the last one. -/
  | unplaced
deriving DecidableEq, Repr, Inhabited

/-- What has to be done again for a component. -/
structure DirtyFlags where
  layout : Bool
  paint : Bool
deriving DecidableEq, Repr

namespace DirtyFlags

/-- Nothing to do. -/
def none : DirtyFlags := ⟨false, false⟩

/-- Only painting. -/
def paintOnly : DirtyFlags := ⟨false, true⟩

/-- Layout and painting. -/
def all : DirtyFlags := ⟨true, true⟩

/-- Whatever one or the other asks for. -/
def union (f g : DirtyFlags) : DirtyFlags := ⟨f.layout || g.layout, f.paint || g.paint⟩

/-- Whether there is nothing to do. -/
def isEmpty (f : DirtyFlags) : Bool := !f.layout && !f.paint

/-- The flags as bits, layout in the lowest. -/
def bits (f : DirtyFlags) : Nat := (if f.layout then 1 else 0) + (if f.paint then 2 else 0)

end DirtyFlags

/-- The state of one component. -/
structure Placement where
  bounds : Bounds
  visibility : Visibility
  phase : Phase
  dirty : DirtyFlags
deriving DecidableEq, Repr

/-- A component before the first pass. -/
def Placement.fresh : Placement := ⟨.empty, .visible, .unmeasured, .all⟩

/-- The state of all components, by number. -/
structure Layout where
  placements : List Placement
deriving DecidableEq, Repr

namespace Layout

/-- A layout for no components. -/
def empty : Layout := ⟨[]⟩

/-- A layout for a number of components before the first pass. -/
def fresh (count : Nat) : Layout := ⟨List.replicate count .fresh⟩

/-- The number of components. -/
def size (l : Layout) : Nat := l.placements.length

/-- Where a component is. -/
def bounds (l : Layout) (index : Nat) : Bounds := (l.placements[index]?.map (·.bounds)).getD .empty

/-- How far layout has taken a component. -/
def phase (l : Layout) (index : Nat) : Phase :=
  (l.placements[index]?.map (·.phase)).getD .unmeasured

/-- Whether a component shows, as of the last pass. -/
def visibility (l : Layout) (index : Nat) : Visibility :=
  (l.placements[index]?.map (·.visibility)).getD .visible

/-- What has to be done again for a component. -/
def dirty (l : Layout) (index : Nat) : DirtyFlags :=
  (l.placements[index]?.map (·.dirty)).getD .none

/-- Whether the last pass positioned a component. -/
def isPlaced (l : Layout) (index : Nat) : Bool := l.phase index = .placed

/-- Whether a component by itself is there to be seen. -/
def isShown (l : Layout) (index : Nat) : Bool :=
  l.isPlaced index && (l.visibility index).isDrawn

/-- Whether anything has to be done again for a component. -/
def isDirty (l : Layout) (index : Nat) : Bool := !(l.dirty index).isEmpty

/-- Whether anything has to be done again. -/
def anyDirty (l : Layout) : Bool := l.placements.any fun p => !p.dirty.isEmpty

/-- Ask for more to be done again for a component. -/
def mark (l : Layout) (index : Nat) (flags : DirtyFlags) : Layout :=
  ⟨l.placements.modify index fun p => { p with dirty := p.dirty.union flags }⟩

/-- Ask for more to be done again for some components. -/
def markAll (l : Layout) (indices : List Nat) (flags : DirtyFlags) : Layout :=
  indices.foldl (fun l index => l.mark index flags) l

/-- Nothing has to be done again. -/
def clearDirty (l : Layout) : Layout := ⟨l.placements.map fun p => { p with dirty := .none }⟩

end Layout

end Panel
