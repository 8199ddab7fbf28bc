import Panel.Action
import Panel.Component.Tree
import Panel.Derived

/-!
# Document content

What a document consists of once its operations have been read: variables, derived variables, a
tree of components and a table of actions.
-/

namespace Panel

/-- Everything a list of operations declares. -/
structure Content where
  store : Store
  /-- The derived variables in the order of declaration. -/
  derived : List DerivedVariable
  tree : ComponentTree
  /-- The actions in the order of declaration, each name at most once. -/
  actions : List Action
deriving Repr

/-- The action with a name. -/
def Content.action? (c : Content) (id : ActionId) : Option Action :=
  c.actions.find? fun a => a.id = id

/-- The content without an action.  The answer also tells whether there was one. -/
def Content.dropAction (c : Content) (id : ActionId) : Bool × Content :=
  ((c.action? id).isSome, { c with actions := c.actions.filter fun a => a.id ≠ id })

end Panel
