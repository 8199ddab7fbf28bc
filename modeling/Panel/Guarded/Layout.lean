import Panel.Guarded.Store
import Panel.Layout.Arrays

/-!
# Layout passes that follow links

A pass over the arrays of a layout that goes from component to component by the numbers that a
component links to.  It writes in place, and so has no answer if a number is not within an array;
nor has it one if components are nested more deeply than it may go.

* `PassContext.measure?` and `PassContext.place?` deal with a component and all below it;
* `PassContext.pass?` is the whole pass.
-/

namespace Panel

/-- Whether a component asks for all the space along an axis. -/
def Node.fills (axis : Axis) (n : Node) : Bool :=
  match axis with
  | .horizontal => Modifiers.width n.modifiers = .fill
  | .vertical => Modifiers.height n.modifiers = .fill

/-- The components that a pass goes over, and what it takes into account besides. -/
structure PassContext where
  nodes : List Node
  store : IndexedStore
  textMeasure : TextMeasure

/-- The children of a component that take part, by the arrays. -/
def ArrayPass.flow (s : ArrayPass) (n : Node) : List Nat := n.children.filter s.takesPart

namespace PassContext

/-- Whether the component with a number asks for all the space along an axis. -/
def fills (ctx : PassContext) (axis : Axis) (index : Nat) : Bool :=
  ctx.nodes[index]?.any (·.fills axis)

/-- The size of a piece of text. -/
def textSize? (ctx : PassContext) (content : TextContent) : Option Size := do
  let text ← ctx.store.resolveText? content.text
  return ctx.textMeasure text ⟨content.fontSize, content.weight, content.italic⟩

/-! ## Measuring -/

/-- Measure components one after the other. -/
def measureAll? (measure : Nat → ArrayPass → Option (Size × ArrayPass)) (s : ArrayPass) :
    List Nat → Option (List Size × ArrayPass)
  | [] => some ([], s)
  | i :: rest => do
    let first ← measure i s
    let others ← measureAll? measure first.2 rest
    return (first.1 :: others.1, others.2)

/-- The content size of a row or column with some children that take part: first those that do not
fill its axis are measured, then those that do share the rest. -/
def measureLinear? (ctx : PassContext)
    (measure : Room → Nat → ArrayPass → Option (Size × ArrayPass)) (axis : Axis)
    (layout : LinearLayout) (inner : Room) (flow : List Nat) (s : ArrayPass) :
    Option (Size × ArrayPass) :=
  if flow.isEmpty then some (.empty, s)
  else do
    let spacing := layout.spacing.extent * .ofNat (← difference? flow.length 1)
    let rigid ← measureAll? (measure (axis.room none (axis.crossSpace inner))) s
      (flow.filter fun i => !ctx.fills axis i)
    let fills := flow.filter (ctx.fills axis)
    let share := (axis.mainSpace inner).map fun limit =>
      ((limit - Single.total (rigid.1.map axis.main) - spacing) / .ofNat fills.length).extent
    let filling ← measureAll? (measure (axis.room share (axis.crossSpace inner))) rigid.2 fills
    let sizes := rigid.1 ++ filling.1
    return (axis.size (Single.total (sizes.map axis.main) + spacing)
      (Single.largest (sizes.map axis.cross)), filling.2)

/-- Measure the component with a number in some room, with others nested in it to some depth. -/
def measure? (ctx : PassContext) :
    (depth : Nat) → Room → Nat → ArrayPass → Option (Size × ArrayPass)
  | 0, _, _, _ => none
  | depth + 1, room, index, s =>
    match ctx.nodes[index]? with
    | none => some (.empty, s)
    | some n => do
      let inner := Modifiers.innerRoom n.modifiers room
      let content ← (match n.kind with
        | .row layout =>
          ctx.measureLinear? (ctx.measure? depth) .horizontal layout inner (s.flow n) s
        | .column layout =>
          ctx.measureLinear? (ctx.measure? depth) .vertical layout inner (s.flow n) s
        | .box _ =>
          (measureAll? (ctx.measure? depth inner) s (s.flow n)).map fun measured =>
            (BoxLayout.contentSize measured.1, measured.2)
        | .text content => (ctx.textSize? content).map fun size => (size, s)
        | .spacer => some (.empty, s))
      let size := Modifiers.outerSize n.modifiers room content.1
      return (size, ← content.2.writeSize? index size)

/-! ## Placing -/

/-- Place components one after the other. -/
def placeAll? (place : Nat → Point → ArrayPass → Option ArrayPass)
    (advance : Single → Size → Point × Single) (cursor : Single) (s : ArrayPass) :
    List Nat → Option ArrayPass
  | [] => some s
  | i :: rest => do
    let next := advance cursor (s.arrays.sizeAt i)
    placeAll? place advance next.2 (← place i next.1 s) rest

/-- Place the children of a row or column that take part. -/
def placeLinear? (place : Nat → Point → ArrayPass → Option ArrayPass) (axis : Axis)
    (layout : LinearLayout) (inner : Bounds) (flow : List Nat) (s : ArrayPass) : Option ArrayPass :=
  let lead := layout.lead axis inner (flow.map s.arrays.sizeAt)
  placeAll? place (layout.advance axis inner lead.2) lead.1 s flow

/-- Place the component with a number, with others nested in it to some depth. -/
def place? (ctx : PassContext) : (depth : Nat) → Nat → Point → ArrayPass → Option ArrayPass
  | 0, _, _, _ => none
  | depth + 1, index, origin, s =>
    match ctx.nodes[index]? with
    | none => some s
    | some n => do
      let s ← s.writeOrigin? index origin
      let width ← s.arrays.width[index]?
      let height ← s.arrays.height[index]?
      let inner := (Modifiers.padding n.modifiers).inside ⟨origin, ⟨width, height⟩⟩
      match n.kind with
      | .row layout =>
        placeLinear? (ctx.place? depth) .horizontal layout inner (s.flow n) s
      | .column layout =>
        placeLinear? (ctx.place? depth) .vertical layout inner (s.flow n) s
      | .box layout =>
        placeAll? (ctx.place? depth) (fun cursor size => (layout.origin inner size, cursor)) .zero s
          (s.flow n)
      | .text _ => some s
      | .spacer => some s

/-! ## Passes -/

/-- The visibility of every component at present. -/
def visibilities? (ctx : PassContext) : Option (List Visibility) :=
  ctx.nodes.mapM fun n => Modifiers.resolvedVisibility? ctx.store n.modifiers

/-- The arrays of a layout after a pass. -/
def pass? (ctx : PassContext) (a : LayoutArrays) (viewport : Size) : Option LayoutArrays := do
  let count := ctx.nodes.length
  let before := if a.phase.length = count then a else .fresh count
  let s ← ArrayPass.start? before (← ctx.visibilities?)
  if s.takesPart 0 then
    let measured ← ctx.measure? (count + 1) (.ofViewport viewport) 0 s
    (← ctx.place? (count + 1) 0 .origin measured.2).finish?
  else s.finish?

end PassContext

end Panel
