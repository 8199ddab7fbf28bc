import Panel.Dimension
import Panel.Geometry

/-!
# Available space

Along each axis a component is measured against a definite extent or against none.  Its own request
decides what it makes of that for itself and what it leaves to its content.
-/

namespace Panel

/-- An extent that counts: a not-a-number or a negative one is zero. -/
def Single.extent (x : Single) : Single := if x.isNaN || x.lt .zero then .zero else x

/-- The space along one axis, if there is a limit to it. -/
abbrev Space := Option Single

/-- The space along both axes. -/
structure Room where
  width : Space
  height : Space
deriving DecidableEq, Repr

/-- The space along an axis. -/
def Axis.mainSpace : Axis → Room → Space
  | horizontal, r => r.width
  | vertical, r => r.height

/-- The space across an axis. -/
def Axis.crossSpace : Axis → Room → Space
  | horizontal, r => r.height
  | vertical, r => r.width

/-- The room with the given space along and across an axis. -/
def Axis.room : Axis → Space → Space → Room
  | horizontal, along, across => ⟨along, across⟩
  | vertical, along, across => ⟨across, along⟩

/-- The space of a viewport; an extent of zero or less sets no limit. -/
def Space.ofViewport (extent : Single) : Space :=
  if Single.zero.lt extent then some extent else none

/-- The room of a viewport. -/
def Room.ofViewport (viewport : Size) : Room :=
  ⟨.ofViewport viewport.width, .ofViewport viewport.height⟩

namespace Dimension

/-- The extent of a component that asks for this much, in some space, with content of some extent,
padding included. -/
def resolve (d : Dimension) (space : Space) (content : Single) : Single :=
  match d, space with
  | fixed units, _ => units.extent
  | fill, some limit => limit.extent
  | fill, none => content.extent
  | wrap, some limit => (content.min limit).extent
  | wrap, none => content.extent

/-- The space that a component leaves to its content. -/
def inner (d : Dimension) (space : Space) (padding : Single) : Space :=
  let outer := match d with
    | fixed units => some units.extent
    | _ => space
  outer.map fun limit => (limit - padding).extent

end Dimension

end Panel
