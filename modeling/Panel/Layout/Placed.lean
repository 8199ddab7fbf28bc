import Panel.Layout.Measured

/-!
# Placing

Placing walks a measured tree from the top and gives every component that takes part its bounds.  A
container places its children inside its padding: a row or column one after the other along its
axis, a box all over each other.
-/

namespace Panel

/-- Where the first child of a row or column starts, and the gap that its arrangement adds between
children, for some number of children and spare space. -/
def Arrangement.distribute (a : Arrangement) (spare : Single) (count : Nat) : Single × Single :=
  let n := Single.ofNat count
  match a with
  | start => (.zero, .zero)
  | center => (spare / .two, .zero)
  | finish => (spare, .zero)
  | spaceBetween => if 1 < count then (.zero, spare / (n - .one)) else (.zero, .zero)
  | spaceAround => (spare / n / .two, spare / n)
  | spaceEvenly => (spare / (n + .one), spare / (n + .one))

/-- The origins of consecutive children, the first of which is `cursor` from the origin along the
axis. -/
def LinearLayout.originsFrom (layout : LinearLayout) (axis : Axis) (origin : Point)
    (crossSpace gap : Single) : Single → List Size → List Point
  | _, [] => []
  | cursor, size :: rest =>
    let across := layout.alignment.offset crossSpace (axis.cross size)
    axis.point (axis.mainOf origin + cursor) (axis.crossOf origin + across) ::
      layout.originsFrom axis origin crossSpace gap
        (cursor + (axis.main size + layout.spacing.extent + gap)) rest

/-- The origins of the children of a row or column. -/
def LinearLayout.origins (layout : LinearLayout) (axis : Axis) (inner : Bounds)
    (sizes : List Size) : List Point :=
  let spacing := layout.spacing.extent * (.ofNat sizes.length - .one)
  let used := Single.sum (sizes.map axis.main) + spacing
  let spare := (axis.main inner.size - used).clampNegative
  let (start, gap) := layout.arrangement.distribute spare sizes.length
  layout.originsFrom axis inner.origin (axis.cross inner.size) gap start sizes

/-- The origin of a child of a box. -/
def BoxLayout.origin (layout : BoxLayout) (inner : Bounds) (size : Size) : Point :=
  ⟨inner.origin.x + layout.horizontal.offset inner.size.width size.width,
    inner.origin.y + layout.vertical.offset inner.size.height size.height⟩

/-- The origins of the children of a component. -/
def ComponentKind.origins (kind : ComponentKind) (inner : Bounds) (sizes : List Size) :
    List Point :=
  match kind with
  | row layout => layout.origins .horizontal inner sizes
  | column layout => layout.origins .vertical inner sizes
  | box layout => sizes.map (layout.origin inner)
  | text _ => []
  | spacer => []

/-- What a component leaves to its content inside its padding. -/
def Padding.inside (p : Padding) (bounds : Bounds) : Bounds :=
  ⟨⟨bounds.origin.x + p.left, bounds.origin.y + p.top⟩,
    ⟨(bounds.size.width - p.horizontal).extent, (bounds.size.height - p.vertical).extent⟩⟩

namespace Measured

mutual

/-- The bounds of all components of a tree whose top has the given origin, by number.  Components
that take no part have none. -/
def place (origin : Point) : Measured → List (Option Bounds)
  | absent count => List.replicate count none
  | present kind padding size children =>
    let bounds : Bounds := ⟨origin, size⟩
    some bounds :: placeAll (kind.origins (padding.inside bounds) (sizes children)) children

/-- The bounds of all components of some trees.  Those that take part have the given origins. -/
def placeAll (origins : List Point) : List Measured → List (Option Bounds)
  | [] => []
  | absent count :: rest => List.replicate count none ++ placeAll origins rest
  | m :: rest => m.place (origins.headD .origin) ++ placeAll origins.tail rest

end

end Measured

end Panel
