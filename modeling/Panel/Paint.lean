import Panel.Component.Resolve
import Panel.Component.Tree
import Panel.Layout.Basic

/-!
# Painting

Painting walks the tree and calls for drawing: a parent before its children, siblings in order, and
for each component its backgrounds and borders in the order of declaration and then its text.  A
component that the last pass did not place, or that does not show, is left out with everything below
it.  Every call that draws follows the call that sets its style.
-/

namespace Panel

/-- The style of what is drawn next. -/
structure PaintStyle where
  color : Color
  /-- The width of an outline; zero fills. -/
  stroke : Single
  weight : UInt16
  italic : Bool
deriving DecidableEq, Repr

namespace PaintStyle

/-- Fill with a color. -/
def fill (color : Color) : PaintStyle := ⟨color, .zero, 400, false⟩

/-- Outline with a color. -/
def outline (color : Color) (width : Single) : PaintStyle := ⟨color, width, 400, false⟩

end PaintStyle

/-- A step along the outline of a shape. -/
inductive PathVerb where
  | moveTo (p : Point)
  | lineTo (p : Point)
  | close
deriving DecidableEq, Repr

/-- The outline of a rectangle, clockwise from the top-left corner. -/
def Bounds.outline (b : Bounds) : List PathVerb :=
  [.moveTo b.origin, .lineTo ⟨b.right, b.origin.y⟩, .lineTo ⟨b.right, b.bottom⟩,
    .lineTo ⟨b.origin.x, b.bottom⟩, .close]

/-- A call for drawing. -/
inductive PaintCall where
  | style (style : PaintStyle)
  | rect (bounds : Bounds)
  | path (verbs : List PathVerb)
  | text (text : String) (origin : Point)
deriving DecidableEq, Repr

/-- The text that a call draws. -/
def PaintCall.drawnText? : PaintCall → Option String
  | text s _ => some s
  | _ => none

/-- The calls for a modifier of a component with some bounds. -/
def Modifier.paint (store : Store) (bounds : Bounds) : Modifier → List PaintCall
  | background color => [.style (.fill (store.resolveColor color)), .rect bounds]
  | border thickness color =>
    [.style (.outline (store.resolveColor color) thickness), .path bounds.outline]
  | _ => []

/-- The calls for a piece of text. -/
def TextContent.paint (store : Store) (content : TextContent) (origin : Point) : List PaintCall :=
  [.style ⟨store.resolveColor content.color, .zero, content.weight, content.italic⟩,
    .text (store.resolveText content.text) origin]

/-- The calls for a component by itself. -/
def Component.paint (store : Store) (bounds : Bounds) (c : Component) : List PaintCall :=
  c.modifiers.flatMap (Modifier.paint store bounds) ++
    match c.kind with
    | .text content =>
      let padding := Modifiers.padding c.modifiers
      content.paint store ⟨bounds.origin.x + padding.left, bounds.origin.y + padding.top⟩
    | _ => []

namespace Layout

mutual

/-- The components of a tree that are painted, in order, with their numbers.  The top of the tree
has number `index`. -/
def shown (l : Layout) (index : Nat) : Component → List (Nat × Component)
  | c@(.node _ _ _ children) =>
    if l.isShown index then (index, c) :: l.shownAll (index + 1) children else []

/-- The components of consecutive trees that are painted, in order.  The first tree has number
`index`. -/
def shownAll (l : Layout) (index : Nat) : List Component → List (Nat × Component)
  | [] => []
  | c :: rest => l.shown index c ++ l.shownAll (index + c.size) rest

end

end Layout

/-- The number of components that are painted. -/
def ComponentTree.paintedCount (t : ComponentTree) (l : Layout) : Nat := (l.shown 0 t.root).length

/-- All calls for a tree. -/
def ComponentTree.paint (t : ComponentTree) (store : Store) (l : Layout) : List PaintCall :=
  (l.shown 0 t.root).flatMap fun (index, c) => c.paint store (l.bounds index)

end Panel
