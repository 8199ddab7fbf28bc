import Panel.Component.Basic

/-!
# The component tree

The components of a document, numbered from zero in the order in which they are declared: a parent
before its children, each child with everything below it before the next.  `nodes` lists them by
number, each with a link to its parent and links to its children; `subtree` and `ancestors` follow
the links.
-/

namespace Panel

/-- A component by itself, with links to its neighbours. -/
structure Node where
  id : ComponentId
  kind : ComponentKind
  modifiers : Modifiers
  /-- The number of the parent; the root has none. -/
  parent : Option Nat
  /-- The numbers of the children, in order. -/
  children : List Nat
deriving DecidableEq, Repr

/-- Every variable that a node mentions, first in its content and then in its modifiers. -/
def Node.reads (n : Node) : List VariableId :=
  n.kind.reads ++ Modifiers.reads n.modifiers

namespace Component

/-- The numbers of consecutive trees, the first of which has number `index`. -/
def numbering (index : Nat) : List Component → List Nat
  | [] => []
  | c :: rest => index :: numbering (index + c.size) rest

mutual

/-- The nodes of a tree whose top has number `index`, by number. -/
def flatten (parent : Option Nat) (index : Nat) : Component → List Node
  | node id kind modifiers children =>
    ⟨id, kind, modifiers, parent, numbering (index + 1) children⟩ ::
      flattenAll index (index + 1) children

/-- The nodes of consecutive trees with a common parent, the first of which has number `index`. -/
def flattenAll (parent index : Nat) : List Component → List Node
  | [] => []
  | c :: rest => c.flatten (some parent) index ++ flattenAll parent (index + c.size) rest

end

end Component

/-- The components of a document.  There is always a root. -/
structure ComponentTree where
  root : Component
deriving Repr

namespace ComponentTree

/-- The number of components. -/
def size (t : ComponentTree) : Nat := t.root.size

/-- All components by number. -/
def nodes (t : ComponentTree) : List Node := t.root.flatten none 0

/-- The component with a number. -/
def node? (t : ComponentTree) (index : Nat) : Option Node := t.nodes[index]?

/-- The number of the component with a name. -/
def indexOf? (t : ComponentTree) (id : ComponentId) : Option Nat :=
  t.nodes.findIdx? fun n => n.id = id

/-- Visit the nodes on a stack, each before its children and these before the rest.  The walk stops
after a number of steps; a tree of `n` nodes needs no more than `n`. -/
def walk (nodes : List Node) : Nat → List Nat → List Nat
  | 0, _ => []
  | _ + 1, [] => []
  | steps + 1, i :: stack =>
    match nodes[i]? with
    | some n => i :: walk nodes steps (n.children ++ stack)
    | none => walk nodes steps stack

/-- The number of a component and of all components below it, following the links to children. -/
def subtree (t : ComponentTree) (index : Nat) : List Nat := walk t.nodes t.size [index]

/-- Follow links to parents for a number of steps. -/
def climb (nodes : List Node) : Nat → Option Nat → List Nat
  | 0, _ => []
  | _ + 1, none => []
  | steps + 1, some i => i :: climb nodes steps (nodes[i]?.bind (·.parent))

/-- The numbers of all components above one, the nearest first, following the links to parents. -/
def ancestors (t : ComponentTree) (index : Nat) : List Nat :=
  climb t.nodes t.size ((t.node? index).bind (·.parent))

/-- The number of components above one. -/
def depth (t : ComponentTree) (index : Nat) : Nat := (t.ancestors index).length

end ComponentTree

end Panel
