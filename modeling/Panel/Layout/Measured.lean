import Panel.Component.Resolve
import Panel.Layout.Space
import Panel.Text.Measure

/-!
# Measuring

Measuring turns a component into a tree of sizes.  A component measures its content against the
space that its own request and padding leave, and its size follows from both.

* The children of a row or column that do not fill its axis are measured first, with no limit along
  it; those that fill it share what is left in equal parts.
* Every child of a box is measured against the same room.
* A component that is gone takes no part, with everything below it.
-/

namespace Panel

/-- A component after measuring. -/
inductive Measured where
  /-- A number of components that take no part. -/
  | absent (count : Nat)
  | present (kind : ComponentKind) (padding : Padding) (size : Size) (children : List Measured)
deriving Repr

namespace Measured

/-- The size of a component that takes part. -/
def size? : Measured → Option Size
  | absent _ => none
  | present _ _ size _ => some size

/-- The sizes of the components that take part. -/
def sizes (ms : List Measured) : List Size := ms.filterMap size?

/-- A component that takes part, if one of the two does. -/
def or : Measured → Measured → Measured
  | absent _, m => m
  | m, _ => m

end Measured

/-- What measuring takes into account besides the components. -/
structure MeasureContext where
  store : Store
  textMeasure : TextMeasure

namespace MeasureContext

/-- The size of a piece of text. -/
def textSize (ctx : MeasureContext) (content : TextContent) : Size :=
  ctx.textMeasure (ctx.store.resolveText content.text)
    ⟨content.fontSize, content.weight, content.italic⟩

/-- Whether a component takes part in layout. -/
def takesPart (ctx : MeasureContext) (c : Component) : Bool :=
  (Modifiers.resolvedVisibility ctx.store c.modifiers).takesSpace

end MeasureContext

/-- Whether a component asks for all the space along an axis. -/
def Component.fills (axis : Axis) (c : Component) : Bool :=
  match axis with
  | .horizontal => Modifiers.width c.modifiers = .fill
  | .vertical => Modifiers.height c.modifiers = .fill

/-- The largest of some extents, at least zero. -/
def Single.largest (extents : List Single) : Single := extents.foldl Single.max .zero

/-- The sum of some extents, added to zero from the left. -/
def Single.total (extents : List Single) : Single := extents.foldl (· + ·) .zero

/-- The gaps between a number of children, together. -/
def LinearLayout.gaps (layout : LinearLayout) (count : Nat) : Single :=
  layout.spacing.extent * .ofNat (count - 1)

/-- The part of the space along a row or column that each child which fills it gets, when the
others use some of it. -/
def LinearLayout.share (layout : LinearLayout) (space : Space) (used : Single)
    (count fillCount : Nat) : Space :=
  space.map fun limit => ((limit - used - layout.gaps count) / .ofNat fillCount).extent

/-- The content size of a row or column: along its axis the children that do not fill it, then those
that do, then the gaps; across it the largest child. -/
def LinearLayout.contentSize (layout : LinearLayout) (axis : Axis) (sizes : List Size) : Size :=
  if sizes.isEmpty then .empty
  else axis.size (Single.total (sizes.map axis.main) + layout.gaps sizes.length)
    (Single.largest (sizes.map axis.cross))

/-- The content size of a box: along each axis the largest child. -/
def BoxLayout.contentSize (sizes : List Size) : Size :=
  ⟨Single.largest (sizes.map (·.width)), Single.largest (sizes.map (·.height))⟩

/-- A component of some content size in some room. -/
def Measured.of (kind : ComponentKind) (modifiers : Modifiers) (room : Room) (content : Size)
    (children : List Measured) : Measured :=
  let padding := Modifiers.padding modifiers
  .present kind padding
    ⟨(Modifiers.width modifiers).resolve room.width (content.width.extent + padding.horizontal),
      (Modifiers.height modifiers).resolve room.height (content.height.extent + padding.vertical)⟩
    children

/-- The room that a component leaves to its content. -/
def Modifiers.innerRoom (modifiers : Modifiers) (room : Room) : Room :=
  let padding := Modifiers.padding modifiers
  ⟨(Modifiers.width modifiers).inner room.width padding.horizontal,
    (Modifiers.height modifiers).inner room.height padding.vertical⟩

mutual

/-- Measure a component in some room. -/
def Component.measure (ctx : MeasureContext) (room : Room) : Component → Measured
  | .node _ kind modifiers children =>
    let inner := Modifiers.innerRoom modifiers room
    let linear (axis : Axis) (layout : LinearLayout) : Measured :=
      let rigid := Component.measureEach ctx (fun c =>
        if c.fills axis then none else some (axis.room none (axis.crossSpace inner))) children
      let fillCount := (children.filter fun c => ctx.takesPart c && c.fills axis).length
      let rigidSizes := Measured.sizes rigid
      let share := layout.share (axis.mainSpace inner) (Single.total (rigidSizes.map axis.main))
        (rigidSizes.length + fillCount) fillCount
      let filling := Component.measureEach ctx (fun c =>
        if c.fills axis then some (axis.room share (axis.crossSpace inner)) else none) children
      .of kind modifiers room (layout.contentSize axis (rigidSizes ++ Measured.sizes filling))
        (List.zipWith Measured.or rigid filling)
    match kind with
    | .row layout => linear .horizontal layout
    | .column layout => linear .vertical layout
    | .box _ =>
      let measured := Component.measureEach ctx (fun _ => some inner) children
      .of kind modifiers room (BoxLayout.contentSize (Measured.sizes measured)) measured
    | .text content => .of kind modifiers room (ctx.textSize content) []
    | .spacer => .of kind modifiers room .empty []

/-- Measure those of some components that take part and that are given room. -/
def Component.measureEach (ctx : MeasureContext) (room? : Component → Option Room) :
    List Component → List Measured
  | [] => []
  | c :: rest =>
    (match ctx.takesPart c, room? c with
      | true, some room => c.measure ctx room
      | _, _ => .absent c.size) :: Component.measureEach ctx room? rest

end

end Panel
