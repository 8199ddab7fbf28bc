import Panel.Alignment
import Panel.Modifier

/-!
# Components

A component is a row, a column, a box, a piece of text or a spacer, with modifiers of its own and,
if it is a container, with children.  Components hold no values: texts and colors are the names of
variables.
-/

namespace Panel

/-- How a row or column lays out its children. -/
structure LinearLayout where
  arrangement : Arrangement
  alignment : Alignment
  /-- Gap between consecutive children. -/
  spacing : Single
deriving DecidableEq, Repr

/-- How a box places its children. -/
structure BoxLayout where
  horizontal : Alignment
  vertical : Alignment
deriving DecidableEq, Repr

/-- What a piece of text shows. -/
structure TextContent where
  text : VariableId
  color : VariableId
  fontSize : Single
  weight : UInt16
  italic : Bool
deriving DecidableEq, Repr

/-- Text of regular weight. -/
def TextContent.regular (text color : VariableId) (fontSize : Single) : TextContent :=
  ⟨text, color, fontSize, 400, false⟩

/-- What a component is. -/
inductive ComponentKind where
  | row (layout : LinearLayout)
  | column (layout : LinearLayout)
  | box (layout : BoxLayout)
  | text (content : TextContent)
  | spacer
deriving DecidableEq, Repr

namespace ComponentKind

/-- Whether components of the kind have children. -/
def isContainer : ComponentKind → Bool
  | row _ => true
  | column _ => true
  | box _ => true
  | text _ => false
  | spacer => false

/-- The word for a kind. -/
def name : ComponentKind → String
  | row _ => "row"
  | column _ => "column"
  | box _ => "box"
  | text _ => "text"
  | spacer => "spacer"

/-- The variables that the content of a component reads, once each. -/
def reads : ComponentKind → List VariableId
  | text content =>
    if content.text = content.color then [content.text] else [content.text, content.color]
  | _ => []

end ComponentKind

/-- A component with everything below it. -/
inductive Component where
  | node (id : ComponentId) (kind : ComponentKind) (modifiers : Modifiers)
      (children : List Component)
deriving Repr

namespace Component

/-- The name of a component. -/
def id : Component → ComponentId
  | node id .. => id

/-- What a component is. -/
def kind : Component → ComponentKind
  | node _ kind .. => kind

/-- The modifiers of a component. -/
def modifiers : Component → Modifiers
  | node _ _ modifiers _ => modifiers

/-- The components directly inside. -/
def children : Component → List Component
  | node _ _ _ children => children

mutual

/-- The number of components in a tree. -/
def size : Component → Nat
  | node _ _ _ children => 1 + sizeAll children

/-- The number of components in a list of trees. -/
def sizeAll : List Component → Nat
  | [] => 0
  | c :: rest => c.size + sizeAll rest

end

mutual

/-- The components of a tree, parents before children and siblings in order. -/
def preorder : Component → List Component
  | c@(node _ _ _ children) => c :: preorderAll children

/-- The components of a list of trees, one tree after the other. -/
def preorderAll : List Component → List Component
  | [] => []
  | c :: rest => c.preorder ++ preorderAll rest

end

end Component

end Panel
