import Panel.Layout.Pass

/-!
# Layout passes in place

A pass can write over the layout before, entry by entry: whether components show, then sizes from
the bottom of the tree upwards, then origins from the top downwards.  What it needs to know of a
component that it has dealt with, it looks up in the layout.  Components that take no part keep the
entries of earlier passes, and only how far layout has taken them is looked at again.
-/

namespace Panel

/-- The size of a component with content of some size in some room. -/
def Modifiers.outerSize (modifiers : Modifiers) (room : Room) (content : Size) : Size :=
  let padding := Modifiers.padding modifiers
  ⟨(Modifiers.width modifiers).resolve room.width (content.width.extent + padding.horizontal),
    (Modifiers.height modifiers).resolve room.height (content.height.extent + padding.vertical)⟩

/-! ## One child after the other -/

/-- The space between the start of a row or column and its first child, and the gap that its
arrangement adds between children of some sizes. -/
def LinearLayout.lead (layout : LinearLayout) (axis : Axis) (inner : Bounds) (sizes : List Size) :
    Single × Single :=
  let spacing := layout.spacing.extent * (.ofNat sizes.length - .one)
  let used := Single.sum (sizes.map axis.main) + spacing
  let spare := (axis.main inner.size - used).clampNegative
  layout.arrangement.distribute spare sizes.length

/-- Where the next child of a row or column goes, and where the one after it starts. -/
def LinearLayout.advance (layout : LinearLayout) (axis : Axis) (inner : Bounds)
    (gap cursor : Single) (size : Size) : Point × Single :=
  let across := layout.alignment.offset (axis.cross inner.size) (axis.cross size)
  (axis.point (axis.mainOf inner.origin + cursor) (axis.crossOf inner.origin + across),
    cursor + (axis.main size + layout.spacing.extent + gap))

namespace Placement

/-- A component that has been given a size. -/
def measured (p : Placement) (size : Size) : Placement :=
  { p with bounds := ⟨p.bounds.origin, size⟩, phase := .measured }

/-- A component that has been given an origin. -/
def placed (p : Placement) (origin : Point) : Placement :=
  { p with bounds := ⟨origin, p.bounds.size⟩, phase := .placed }

/-- A component that a pass has left out. -/
def leftOut (p : Placement) : Placement :=
  let phase := match p.phase with
    | .placed => .unplaced
    | other => other
  { p with phase }

end Placement

/-! ## The state of a pass -/

/-- A layout that is written over, and which of its components have been reached. -/
structure LayoutPass where
  layout : Layout
  reached : List Bool
deriving DecidableEq, Repr

namespace LayoutPass

/-- Whether a component takes part, by its entry. -/
def takesPart (s : LayoutPass) (index : Nat) : Bool := (s.layout.visibility index).takesSpace

/-- The size of a component, by its entry. -/
def size (s : LayoutPass) (index : Nat) : Size := (s.layout.bounds index).size

/-- The sizes of those of consecutive components that take part, by their entries. -/
def sizes (s : LayoutPass) (index : Nat) (cs : List Component) : List Size :=
  ((Component.numbering index cs).filter s.takesPart).map s.size

/-- How many of consecutive components take part, by their entries, and fill an axis. -/
def fillCount (s : LayoutPass) (axis : Axis) (index : Nat) (cs : List Component) : Nat :=
  (((Component.numbering index cs).zip cs).filter fun c => s.takesPart c.1 && c.2.fills axis).length

/-- Write down the size of a component, which is reached. -/
def writeSize (s : LayoutPass) (index : Nat) (size : Size) : LayoutPass where
  layout := ⟨s.layout.placements.modify index (·.measured size)⟩
  reached := s.reached.set index true

/-- Write down the origin of a component. -/
def writeOrigin (s : LayoutPass) (index : Nat) (origin : Point) : LayoutPass where
  layout := ⟨s.layout.placements.modify index (·.placed origin)⟩
  reached := s.reached

/-! ## Measuring -/

mutual

/-- Measure the component with a number in some room. -/
def measure (ctx : MeasureContext) (room : Room) (index : Nat) (s : LayoutPass) :
    Component → Size × LayoutPass
  | .node _ kind modifiers children =>
    let inner := Modifiers.innerRoom modifiers room
    let linear (axis : Axis) (layout : LinearLayout) : Size × LayoutPass :=
      let rigid := measureEach ctx (fun c =>
        if c.fills axis then none else some (axis.room none (axis.crossSpace inner)))
        (index + 1) s children
      let fillCount := s.fillCount axis (index + 1) children
      let share := layout.share (axis.mainSpace inner) (Single.total (rigid.1.map axis.main))
        (rigid.1.length + fillCount) fillCount
      let filling := measureEach ctx (fun c =>
        if c.fills axis then some (axis.room share (axis.crossSpace inner)) else none)
        (index + 1) rigid.2 children
      (layout.contentSize axis (rigid.1 ++ filling.1), filling.2)
    let content := match kind with
      | .row layout => linear .horizontal layout
      | .column layout => linear .vertical layout
      | .box _ =>
        let measured := measureEach ctx (fun _ => some inner) (index + 1) s children
        (BoxLayout.contentSize measured.1, measured.2)
      | .text content => (ctx.textSize content, s)
      | .spacer => (.empty, s)
    let size := Modifiers.outerSize modifiers room content.1
    (size, content.2.writeSize index size)

/-- Measure those of consecutive components that take part and that are given room. -/
def measureEach (ctx : MeasureContext) (room? : Component → Option Room) (index : Nat)
    (s : LayoutPass) : List Component → List Size × LayoutPass
  | [] => ([], s)
  | c :: rest =>
    let first : Option Size × LayoutPass := match s.takesPart index, room? c with
      | true, some room =>
        let measured := measure ctx room index s c
        (some measured.1, measured.2)
      | _, _ => (none, s)
    let others := measureEach ctx room? (index + c.size) first.2 rest
    (first.1.toList ++ others.1, others.2)

end

/-! ## Placing -/

mutual

/-- Place the component with a number. -/
def place (index : Nat) (origin : Point) (s : LayoutPass) : Component → LayoutPass
  | .node _ kind modifiers children =>
    let s := s.writeOrigin index origin
    let inner := (Modifiers.padding modifiers).inside ⟨origin, s.size index⟩
    let linear (axis : Axis) (layout : LinearLayout) : LayoutPass :=
      let lead := layout.lead axis inner (s.sizes (index + 1) children)
      placeEach (layout.advance axis inner lead.2) lead.1 (index + 1) s children
    match kind with
    | .row layout => linear .horizontal layout
    | .column layout => linear .vertical layout
    | .box layout =>
      placeEach (fun cursor size => (layout.origin inner size, cursor)) .zero (index + 1) s children
    | .text _ => s
    | .spacer => s

/-- Place those of consecutive components that take part. -/
def placeEach (advance : Single → Size → Point × Single) (cursor : Single) (index : Nat)
    (s : LayoutPass) : List Component → LayoutPass
  | [] => s
  | c :: rest =>
    if s.takesPart index then
      let next := advance cursor (s.size index)
      placeEach advance next.2 (index + c.size) (place index next.1 s c) rest
    else placeEach advance cursor (index + c.size) s rest

end

end LayoutPass

/-! ## Passes -/

namespace LayoutPass

/-- A pass that has written down which components show, and has reached none. -/
def start (layout : Layout) (visibilities : List Visibility) : LayoutPass where
  layout :=
    ⟨List.zipWith (fun p visibility => { p with visibility }) layout.placements visibilities⟩
  reached := List.replicate visibilities.length false

/-- The layout when the pass is over. -/
def finish (s : LayoutPass) : Layout :=
  ⟨List.zipWith (fun p reached => if reached then p else p.leftOut) s.layout.placements
    s.reached⟩

end LayoutPass

/-- The layout of a tree after a pass in place. -/
def Layout.overwrite (layout : Layout) (t : ComponentTree) (ctx : MeasureContext)
    (viewport : Size) : Layout :=
  let before := if layout.size = t.size then layout else .fresh t.size
  let s := LayoutPass.start before
    (t.nodes.map fun n => Modifiers.resolvedVisibility ctx.store n.modifiers)
  if s.takesPart 0 then
    ((s.measure ctx (.ofViewport viewport) 0 t.root).2.place 0 .origin t.root).finish
  else s.finish

end Panel
