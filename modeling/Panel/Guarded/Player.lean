import Panel.Document
import Panel.Guarded.Arena
import Panel.Guarded.Decode
import Panel.Guarded.Stage

/-!
# Players

A player is a document that is read through a cursor, assembled in an arena and played on a stage.
It has no answer to a call that leaves a buffer, a slot or an array.

* `PlayerCall` is whatever a host can ask for, `Document.answer` what a document gives back;
* `Player.load?` and `Player.answer?` are the same with every access checked.
-/

namespace Panel

/-! ## Calls -/

/-- What a host asks of a document. -/
inductive PlayerCall where
  | update (viewport : Size) (textMeasure : TextMeasure)
  | paint
  | renderFrame (viewport : Size) (textMeasure : TextMeasure)
  | touchDown (component : ComponentId) (position : Point)
  | touchUp (component : ComponentId)
  | componentAt (position : Point)
  | touchTarget (position : Point) (trigger : TouchTrigger)
  | pending
  | takeHostEvents
  | setNamed (name : String) (value : Value)
  | get (id : VariableId)
  | isDirty
  | phase (component : ComponentId)
  | visibility (component : ComponentId)
  | bounds (component : ComponentId)
  | restart

/-- What it is given back. -/
inductive PlayerReply where
  | records (records : List Invalidation)
  /-- The calls for drawing, and the number of components that are painted. -/
  | painted (calls : List PaintCall) (count : Nat)
  | frame (records : List Invalidation) (calls : List PaintCall)
  | delivered (delivered : Bool)
  | component (found : Option ComponentId)
  | events (events : List HostEvent)
  /-- Whether the value written is a change. -/
  | written (changed : Bool)
  | value (value : Value)
  | refused (error : StoreError)
  | dirty (dirty : Bool)
  | phase (found : Option Phase)
  | visibility (found : Option Visibility)
  | bounds (found : Option Bounds)
  | done
deriving DecidableEq, Repr

namespace Document

/-- One call. -/
def answer (d : Document) : PlayerCall → PlayerReply × Document
  | .update viewport textMeasure =>
    let (records, d) := d.update viewport textMeasure
    (.records records, d)
  | .paint => (.painted d.paint (d.scene.content.tree.paintedCount d.scene.layout), d)
  | .renderFrame viewport textMeasure =>
    let (records, calls, d) := d.renderFrame viewport textMeasure
    (.frame records calls, d)
  | .touchDown component position =>
    let (delivered, d) := d.touchDown component position
    (.delivered delivered, d)
  | .touchUp component =>
    let (delivered, d) := d.touchUp component
    (.delivered delivered, d)
  | .componentAt position => (.component (d.componentAt? position), d)
  | .touchTarget position trigger => (.component (d.touchTarget? position trigger), d)
  | .pending => (.records d.scene.dispatcher.pending, d)
  | .takeHostEvents =>
    let (events, d) := d.takeHostEvents
    (.events events, d)
  | .setNamed name value =>
    match d.setNamed name value with
    | .ok (changed, d) => (.written changed, d)
    | .error e => (.refused e, d)
  | .get id =>
    match d.get id with
    | .ok value => (.value value, d)
    | .error e => (.refused e, d)
  | .isDirty => (.dirty d.isDirty, d)
  | .phase component => (.phase (d.phase? component), d)
  | .visibility component => (.visibility (d.visibility? component), d)
  | .bounds component => (.bounds (d.bounds? component), d)
  | .restart => (.done, d.restart)

/-- Calls one after the other, with the replies to them. -/
def answers (d : Document) : List PlayerCall → List PlayerReply × Document
  | [] => ([], d)
  | call :: calls =>
    let (reply, d) := d.answer call
    let (replies, d) := d.answers calls
    (reply :: replies, d)

end Document

/-! ## Players -/

/-- A document that is played with every access checked. -/
structure Player where
  header : Wire.Header
  profile : Profile
  /-- The variables as they were after loading. -/
  initial : IndexedStore
  stage : Stage
  /-- The viewport of the last update. -/
  viewport : Size

namespace Player

/-- The document in a buffer. -/
def load? (bytes : List UInt8) (config : Config) : Checked DecodeError Player := do
  let decoded ← Wire.decodeDocument? bytes config
  let arena ← Arena.ofOperations? decoded.operations config.maxDepth
  let stage ← Stage.begin? arena.nodes arena.store arena.derived arena.actions
  return ⟨decoded.header, decoded.profile, stage.store, stage, config.viewport⟩

/-- The document as it was after loading.  The viewport stays. -/
def restart? (p : Player) : Option Player := do
  let s := p.stage
  return { p with stage := ← Stage.begin? s.screen.nodes p.initial s.derived s.actions }

/-- Bring the layout up to date for a viewport, and hand over the records. -/
def update? (p : Player) (viewport : Size) (textMeasure : TextMeasure) :
    Option (List Invalidation × Player) := do
  let refreshed ← p.stage.refresh?
  let laidOut ← refreshed.layOut? viewport textMeasure
  let (records, stage) := laidOut.clearDirty.takeInvalidations
  return (records, { p with stage, viewport })

/-- All calls for drawing, and the number of components that are painted. -/
def paint? (p : Player) : Option (List PaintCall × Nat) := p.stage.screen.paint? p.stage.store

/-- Deliver a touch to a component.  The answer tells whether it was delivered. -/
def touch? (p : Player) (component : ComponentId) (event : TouchEvent) : Option (Bool × Player) :=
  match p.stage.screen.indexOf? component with
  | none => some (false, p)
  | some index => do
    let (delivered, stage) ← p.stage.dispatch? index event
    return (delivered, { p with stage })

/-- The name of the component with a number. -/
def idAt (p : Player) (index : Nat) : Option ComponentId := p.stage.screen.nodes[index]?.map (·.id)

/-- The topmost drawn component at a point. -/
def componentAt (p : Player) (position : Point) : Option ComponentId :=
  (p.stage.screen.hit? position).bind p.idAt

/-- The component that handles touches at a point. -/
def touchTarget (p : Player) (position : Point) (trigger : TouchTrigger) : Option ComponentId := do
  let hit ← p.stage.screen.hit? position
  p.idAt (← p.stage.screen.handler? hit trigger)

/-- What the arrays of the layout say of a component. -/
def state {α : Type} (p : Player) (look : LayoutArrays → Nat → α) (component : ComponentId) :
    Option α :=
  (p.stage.screen.indexOf? component).map (look p.stage.screen.layout)

/-- One call. -/
def answer? (p : Player) : PlayerCall → Option (PlayerReply × Player)
  | .update viewport textMeasure => do
    let (records, p) ← p.update? viewport textMeasure
    return (.records records, p)
  | .paint => do
    let (calls, count) ← p.paint?
    return (.painted calls count, p)
  | .renderFrame viewport textMeasure => do
    let (records, p) ← p.update? viewport textMeasure
    let (calls, _) ← p.paint?
    return (.frame records calls, p)
  | .touchDown component position => do
    let (delivered, p) ← p.touch? component (.down position)
    return (.delivered delivered, p)
  | .touchUp component => do
    let (delivered, p) ← p.touch? component .up
    return (.delivered delivered, p)
  | .componentAt position => some (.component (p.componentAt position), p)
  | .touchTarget position trigger => some (.component (p.touchTarget position trigger), p)
  | .pending => some (.records p.stage.dispatcher.pending, p)
  | .takeHostEvents =>
    let (events, stage) := p.stage.takeHostEvents
    some (.events events, { p with stage })
  | .setNamed name value => do
    match ← (p.stage.setNamed? name value).run with
    | .ok (changed, stage) => return (.written changed, { p with stage })
    | .error e => return (.refused e, p)
  | .get id => do
    match ← (p.stage.store.read? id).run with
    | .ok value => return (.value value, p)
    | .error e => return (.refused e, p)
  | .isDirty => some (.dirty p.stage.screen.layout.anyDirty, p)
  | .phase component => some (.phase (p.state LayoutArrays.phaseAt component), p)
  | .visibility component => some (.visibility (p.state LayoutArrays.visibilityAt component), p)
  | .bounds component => some (.bounds (p.state LayoutArrays.boundsAt component), p)
  | .restart => do return (.done, ← p.restart?)

/-- Calls one after the other, with the replies to them. -/
def answers? (p : Player) : List PlayerCall → Option (List PlayerReply × Player)
  | [] => some ([], p)
  | call :: calls => do
    let (reply, p) ← p.answer? call
    let (replies, p) ← p.answers? calls
    return (reply :: replies, p)

/-- No number that is kept leads out of what it is a number of. -/
structure InBounds (p : Player) : Prop where
  /-- The index does not lead past the last slot. -/
  slots : ∀ id i, p.stage.store.index.lookup id = some i → i < p.stage.store.slots.length
  initial : ∀ id i, p.initial.index.lookup id = some i → i < p.initial.slots.length
  parents : ∀ n ∈ p.stage.screen.nodes, ∀ i, n.parent = some i → i < p.stage.screen.nodes.length
  children : ∀ n ∈ p.stage.screen.nodes, ∀ i ∈ n.children, i < p.stage.screen.nodes.length
  /-- Each of the seven arrays has an entry for every component. -/
  arrays : p.stage.screen.layout.lengths = List.replicate 7 p.stage.screen.nodes.length

end Player

end Panel
