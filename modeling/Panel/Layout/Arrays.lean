import Panel.Layout.InPlace

/-!
# Layouts in arrays

A layout can be kept in seven arrays, one for each thing that it says of a component.  A pass then
writes over one array after the other.  A write outside an array fails, and the whole pass with it;
a look-up there gives a default.
-/

namespace Panel

/-- Write over the entry with a number, if there is one. -/
def update? {α : Type} (l : List α) (index : Nat) (f : α → α) : Option (List α) :=
  l[index]?.map fun a => l.set index (f a)

/-- Write over consecutive entries, the first of which has number `index`, one after the other. -/
def updateEach? {α β : Type} (f : α → β → α) (index : Nat) (l : List α) :
    List β → Option (List α)
  | [] => some l
  | b :: rest => do updateEach? f (index + 1) (← update? l index (f · b)) rest

/-- How far layout has taken a component that a pass has left out. -/
def Phase.leftOut : Phase → Phase
  | placed => unplaced
  | other => other

/-- The state of all components, with an array for each part of it. -/
structure LayoutArrays where
  x : List Single
  y : List Single
  width : List Single
  height : List Single
  visibility : List Visibility
  phase : List Phase
  dirty : List DirtyFlags
deriving DecidableEq, Repr

namespace LayoutArrays

/-- The arrays for a number of components before the first pass. -/
def fresh (count : Nat) : LayoutArrays where
  x := List.replicate count .zero
  y := List.replicate count .zero
  width := List.replicate count .zero
  height := List.replicate count .zero
  visibility := List.replicate count .visible
  phase := List.replicate count .unmeasured
  dirty := List.replicate count .all

/-- The size of a component. -/
def sizeAt (a : LayoutArrays) (index : Nat) : Size :=
  ⟨a.width[index]?.getD .zero, a.height[index]?.getD .zero⟩

/-- How far layout has taken a component. -/
def phaseAt (a : LayoutArrays) (index : Nat) : Phase := a.phase[index]?.getD .unmeasured

/-- Whether a component shows, as of the last pass. -/
def visibilityAt (a : LayoutArrays) (index : Nat) : Visibility :=
  a.visibility[index]?.getD .visible

end LayoutArrays

/-- The arrays of a layout. -/
def Layout.arrays (l : Layout) : LayoutArrays where
  x := l.placements.map (·.bounds.origin.x)
  y := l.placements.map (·.bounds.origin.y)
  width := l.placements.map (·.bounds.size.width)
  height := l.placements.map (·.bounds.size.height)
  visibility := l.placements.map (·.visibility)
  phase := l.placements.map (·.phase)
  dirty := l.placements.map (·.dirty)

/-- Arrays that are written over, and which components have been reached. -/
structure ArrayPass where
  arrays : LayoutArrays
  reached : List Bool
deriving DecidableEq, Repr

namespace ArrayPass

/-- Whether a component takes part, by the arrays. -/
def takesPart (s : ArrayPass) (index : Nat) : Bool := (s.arrays.visibilityAt index).takesSpace

/-- The sizes of those of consecutive components that take part, by the arrays. -/
def sizes (s : ArrayPass) (index : Nat) (cs : List Component) : List Size :=
  ((Component.numbering index cs).filter s.takesPart).map s.arrays.sizeAt

/-- How many of consecutive components take part, by the arrays, and fill an axis. -/
def fillCount (s : ArrayPass) (axis : Axis) (index : Nat) (cs : List Component) : Nat :=
  (((Component.numbering index cs).zip cs).filter fun c => s.takesPart c.1 && c.2.fills axis).length

/-- Write down the size of a component, which is reached. -/
def writeSize? (s : ArrayPass) (index : Nat) (size : Size) : Option ArrayPass := do
  let width ← update? s.arrays.width index fun _ => size.width
  let height ← update? s.arrays.height index fun _ => size.height
  let phase ← update? s.arrays.phase index fun _ => .measured
  let reached ← update? s.reached index fun _ => true
  return ⟨{ s.arrays with width, height, phase }, reached⟩

/-- Write down the origin of a component. -/
def writeOrigin? (s : ArrayPass) (index : Nat) (origin : Point) : Option ArrayPass := do
  let x ← update? s.arrays.x index fun _ => origin.x
  let y ← update? s.arrays.y index fun _ => origin.y
  let phase ← update? s.arrays.phase index fun _ => .placed
  return { s with arrays := { s.arrays with x, y, phase } }

/-! ## Measuring -/

mutual

/-- Measure the component with a number in some room. -/
def measure? (ctx : MeasureContext) (room : Room) (index : Nat) (s : ArrayPass) :
    Component → Option (Size × ArrayPass)
  | .node _ kind modifiers children => do
    let inner := Modifiers.innerRoom modifiers room
    let linear (axis : Axis) (layout : LinearLayout) : Option (Size × ArrayPass) := do
      let rigid ← measureEach? ctx (fun c =>
        if c.fills axis then none else some (axis.room none (axis.crossSpace inner)))
        (index + 1) s children
      let fillCount := s.fillCount axis (index + 1) children
      let share := layout.share (axis.mainSpace inner) (Single.total (rigid.1.map axis.main))
        (rigid.1.length + fillCount) fillCount
      let filling ← measureEach? ctx (fun c =>
        if c.fills axis then some (axis.room share (axis.crossSpace inner)) else none)
        (index + 1) rigid.2 children
      return (layout.contentSize axis (rigid.1 ++ filling.1), filling.2)
    let content ← (match kind with
      | .row layout => linear .horizontal layout
      | .column layout => linear .vertical layout
      | .box _ =>
        (measureEach? ctx (fun _ => some inner) (index + 1) s children).map fun measured =>
          (BoxLayout.contentSize measured.1, measured.2)
      | .text content => some (ctx.textSize content, s)
      | .spacer => some (.empty, s))
    let size := Modifiers.outerSize modifiers room content.1
    return (size, ← content.2.writeSize? index size)

/-- Measure those of consecutive components that take part and that are given room. -/
def measureEach? (ctx : MeasureContext) (room? : Component → Option Room) (index : Nat)
    (s : ArrayPass) : List Component → Option (List Size × ArrayPass)
  | [] => some ([], s)
  | c :: rest => do
    let first ← (match s.takesPart index, room? c with
      | true, some room =>
        (measure? ctx room index s c).map fun measured => (some measured.1, measured.2)
      | _, _ => some (none, s))
    let others ← measureEach? ctx room? (index + c.size) first.2 rest
    return (first.1.toList ++ others.1, others.2)

end

/-! ## Placing -/

mutual

/-- Place the component with a number. -/
def place? (index : Nat) (origin : Point) (s : ArrayPass) : Component → Option ArrayPass
  | .node _ kind modifiers children => do
    let s ← s.writeOrigin? index origin
    let inner := (Modifiers.padding modifiers).inside ⟨origin, s.arrays.sizeAt index⟩
    let linear (axis : Axis) (layout : LinearLayout) : Option ArrayPass :=
      let lead := layout.lead axis inner (s.sizes (index + 1) children)
      placeEach? (layout.advance axis inner lead.2) lead.1 (index + 1) s children
    match kind with
    | .row layout => linear .horizontal layout
    | .column layout => linear .vertical layout
    | .box layout =>
      placeEach? (fun cursor size => (layout.origin inner size, cursor)) .zero (index + 1) s
        children
    | .text _ => some s
    | .spacer => some s

/-- Place those of consecutive components that take part. -/
def placeEach? (advance : Single → Size → Point × Single) (cursor : Single) (index : Nat)
    (s : ArrayPass) : List Component → Option ArrayPass
  | [] => some s
  | c :: rest =>
    if s.takesPart index then do
      let next := advance cursor (s.arrays.sizeAt index)
      placeEach? advance next.2 (index + c.size) (← place? index next.1 s c) rest
    else placeEach? advance cursor (index + c.size) s rest

end

/-! ## Passes -/

/-- A pass that has written down which components show, and has reached none. -/
def start? (arrays : LayoutArrays) (visibilities : List Visibility) : Option ArrayPass := do
  let visibility ← updateEach? (fun _ visibility => visibility) 0 arrays.visibility visibilities
  return ⟨{ arrays with visibility }, List.replicate visibilities.length false⟩

/-- The arrays when the pass is over. -/
def finish? (s : ArrayPass) : Option LayoutArrays := do
  let phase ← updateEach? (fun phase reached => if reached then phase else phase.leftOut) 0
    s.arrays.phase s.reached
  return { s.arrays with phase }

end ArrayPass

namespace LayoutArrays

/-- The arrays of a tree after a pass. -/
def pass? (a : LayoutArrays) (t : ComponentTree) (ctx : MeasureContext) (viewport : Size) :
    Option LayoutArrays := do
  let before := if a.phase.length = t.size then a else .fresh t.size
  let s ← ArrayPass.start? before
    (t.nodes.map fun n => Modifiers.resolvedVisibility ctx.store n.modifiers)
  if s.takesPart 0 then
    let measured ← s.measure? ctx (.ofViewport viewport) 0 t.root
    (← measured.2.place? 0 .origin t.root).finish?
  else s.finish?

/-- The arrays of a tree after some passes, each with variables, text sizes and a viewport of its
own. -/
def passes? (a : LayoutArrays) (t : ComponentTree) (passes : List (MeasureContext × Size)) :
    Option LayoutArrays :=
  passes.foldlM (fun a pass => a.pass? t pass.1 pass.2) a

end LayoutArrays

end Panel
