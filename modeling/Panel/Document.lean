import Panel.Content.Assembly
import Panel.Scene
import Panel.Wire.Document

/-!
# Documents

A document is loaded from bytes as a whole or not at all.  Then it is played: touches and writes by
the host change its variables and note what has to be done again, an update lays it out, and
painting shows it.

* `load` makes a document from a buffer, `restart` returns it to that state;
* `update`, `paint` and `renderFrame` make frames;
* `touchDown`, `touchUp`, `mouse` and `setNamed` are the ways in.
-/

namespace Panel

/-- A document at play. -/
structure Document where
  header : Wire.Header
  profile : Profile
  /-- The variables as they were after loading. -/
  initial : Store
  scene : Scene
  /-- The viewport of the last update. -/
  viewport : Size
deriving Repr

/-- A scene that nothing has happened to: derived variables are up to date, nothing is laid out. -/
def Scene.start (content : Content) : Scene :=
  let content := { content with store := content.store.refreshed content.derived }
  ⟨content, .fresh content.tree.size, .new (.of content)⟩

namespace Document

/-! ## Loading -/

/-- The document in a buffer. -/
def load (bytes : List UInt8) (config : Config) : Except DecodeError Document := do
  let decoded ← Wire.decodeDocument bytes config
  let content ← Content.ofOperations decoded.operations config.maxDepth
  let scene := Scene.start content
  return ⟨decoded.header, decoded.profile, scene.content.store, scene, config.viewport⟩

/-- The document as it was after loading.  The viewport stays. -/
def restart (d : Document) : Document :=
  { d with scene := .start { d.scene.content with store := d.initial } }

/-! ## Frames -/

/-- Bring the layout up to date for a viewport.  Nothing is left to be done again, and the records
of what was are handed over. -/
def update (d : Document) (viewport : Size) (textMeasure : TextMeasure) :
    List Invalidation × Document :=
  let scene := d.scene.refresh.layOut viewport textMeasure
  let (records, scene) := { scene with layout := scene.layout.clearDirty }.takeInvalidations
  (records, { d with scene, viewport })

/-- All calls for drawing the document as it is laid out. -/
def paint (d : Document) : List PaintCall := d.scene.paint

/-- Bring the layout up to date and draw. -/
def renderFrame (d : Document) (viewport : Size) (textMeasure : TextMeasure) :
    List Invalidation × List PaintCall × Document :=
  let (records, d) := d.update viewport textMeasure
  (records, d.paint, d)

/-! ## Touches -/

/-- Deliver a touch to a component.  The answer tells whether it was delivered. -/
def touch (d : Document) (component : ComponentId) (event : TouchEvent) : Bool × Document :=
  match d.scene.content.tree.indexOf? component with
  | none => (false, d)
  | some index =>
    match d.scene.dispatch? index event with
    | none => (false, d)
    | some scene => (true, { d with scene })

/-- A touch goes down on a component. -/
def touchDown (d : Document) (component : ComponentId) (position : Point) : Bool × Document :=
  d.touch component (.down position)

/-- A touch comes up on a component. -/
def touchUp (d : Document) (component : ComponentId) : Bool × Document := d.touch component .up

/-- The name of the component with a number. -/
def idAt? (d : Document) (index : Nat) : Option ComponentId :=
  (d.scene.content.tree.node? index).map (·.id)

/-- The topmost drawn component at a point. -/
def componentAt? (d : Document) (p : Point) : Option ComponentId :=
  (d.scene.hit? p).bind d.idAt?

/-- The component that handles touches at a point. -/
def touchTarget? (d : Document) (p : Point) (trigger : TouchTrigger) : Option ComponentId := do
  let hit ← d.scene.hit? p
  d.idAt? (← d.scene.content.tree.handler? hit trigger)

/-- Deliver what a mouse does to the component that handles it. -/
def mouse (d : Document) (event : MouseEvent) (cell : Size) : Bool × Document :=
  match event.touch? cell with
  | none => (false, d)
  | some touch =>
    match d.touchTarget? (event.position cell) touch.trigger with
    | none => (false, d)
    | some component => d.touch component touch

/-- The requests that are queued for the host. -/
def takeHostEvents (d : Document) : List HostEvent × Document :=
  let (events, scene) := d.scene.takeHostEvents
  (events, { d with scene })

/-! ## Variables -/

/-- Write a variable that the host knows by a text.  The answer tells whether its value changed.  A
list that changed may let lookups reach other variables than before, so that dependencies are looked
at again. -/
def setNamed (d : Document) (name : String) (value : Value) :
    Except StoreError (Bool × Document) := do
  let some id := d.scene.content.store.lookupName name | throw (.unknownName name)
  let (changed, store) ← d.scene.content.store.set id value
  let scene := d.scene.withStore store
  if changed then
    let scene := if value.kind = .list then scene.reindex else scene
    let scene := scene.refresh
    return (true, { d with scene := scene.invalidate (scene.dispatcher.dependencies.affected id) })
  else
    return (false, { d with scene })

/-- The value of a variable. -/
def get (d : Document) (id : VariableId) : Except StoreError Value := d.scene.content.store.get id

/-! ## Components -/

/-- Whether any component has to be done again. -/
def isDirty (d : Document) : Bool := d.scene.layout.anyDirty

/-- How far layout has taken a component. -/
def phase? (d : Document) (component : ComponentId) : Option Phase :=
  (d.scene.content.tree.indexOf? component).map d.scene.layout.phase

/-- Whether a component shows, as of the last update. -/
def visibility? (d : Document) (component : ComponentId) : Option Visibility :=
  (d.scene.content.tree.indexOf? component).map d.scene.layout.visibility

/-- Where a component is, as of the last update. -/
def bounds? (d : Document) (component : ComponentId) : Option Bounds :=
  (d.scene.content.tree.indexOf? component).map d.scene.layout.bounds

end Document

end Panel
