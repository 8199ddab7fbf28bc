import Panel.Component.Tree
import Panel.Guarded.Store
import Panel.Layout.Arrays
import Panel.Operation

/-!
# Assembling content in an arena

All components stand in one list in the order of their declaration.  A component that is declared
inside another one is appended to the list and then linked to from its parent, which is written over
in its place.  There is no answer if the parent is not in the list.

* `Arena.step?` takes one operation in, `Arena.finish` checks that nothing is left waiting;
* `Arena.ofOperations?` is the whole pass.
-/

namespace Panel

/-- What has been declared by the operations so far. -/
structure Arena where
  store : IndexedStore
  derived : List DerivedVariable
  actions : List Action
  /-- The names of all components, in order. -/
  components : List ComponentId
  /-- Modifiers that wait for their component. -/
  pending : Modifiers
  nodes : List Node
  /-- The numbers of the open containers, the innermost first. -/
  opened : List Nat

/-- Link to one more child. -/
def Node.link (n : Node) (child : Nat) : Node := { n with children := n.children ++ [child] }

namespace Arena

/-- Nothing declared. -/
def start : Arena := ⟨.blank, [], [], [], [], [], []⟩

/-- Declare a variable. -/
def declare (a : Arena) (id : VariableId) (value : Value) : Except DecodeError Arena :=
  match a.store.insert id value with
  | .ok store => .ok { a with store }
  | .error _ => .error (.duplicateVariable id)

/-- Declare a derived variable. -/
def derive (a : Arena) (d : DerivedVariable) : Except DecodeError Arena := do
  let a ← a.declare d.id (.default d.recipe.kind)
  return { a with derived := a.derived ++ [d] }

/-- Append a component that takes the waiting modifiers, and link to it from the innermost open
container. -/
def append? (a : Arena) (id : ComponentId) (kind : ComponentKind) : Option (List Node) :=
  let nodes := a.nodes ++ [⟨id, kind, a.pending, a.opened.head?, []⟩]
  match a.opened with
  | [] => some nodes
  | parent :: _ => update? nodes parent (·.link a.nodes.length)

/-- Declare a component. -/
def component? (maxDepth : Nat) (a : Arena) (id : ComponentId) (kind : ComponentKind) :
    Checked DecodeError Arena :=
  if a.opened.isEmpty && !a.nodes.isEmpty then throw (.malformedTree .secondRoot)
  else if a.opened.isEmpty && !kind.isContainer then throw (.malformedTree .leafRoot)
  else if maxDepth < a.opened.length + 1 then throw (.nestingTooDeep maxDepth)
  else if id ∈ a.components then throw (.duplicateComponent id)
  else do
    let nodes ← a.append? id kind
    let opened := if kind.isContainer then a.nodes.length :: a.opened else a.opened
    return { a with components := a.components ++ [id], pending := [], nodes, opened }

/-- Close the innermost open container. -/
def close (a : Arena) : Except DecodeError Arena :=
  if !a.pending.isEmpty then .error (.malformedTree .danglingModifiers)
  else match a.opened with
    | [] => .error (.malformedTree .unopenedEnd)
    | _ :: outer => .ok { a with opened := outer }

/-- Declare an action. -/
def action (a : Arena) (action : Action) : Except DecodeError Arena :=
  if a.actions.any fun other => other.id = action.id then .error (.duplicateAction action.id)
  else .ok { a with actions := a.actions ++ [action] }

/-- Take in one operation. -/
def step? (maxDepth : Nat) (a : Arena) : Operation → Checked DecodeError Arena
  | .value id value => .of (a.declare id value)
  | .name id name => return { a with store := a.store.bindName name id }
  | .derived d => .of (a.derive d)
  | .component id kind => a.component? maxDepth id kind
  | .containerEnd => .of a.close
  | .modifier m => return { a with pending := a.pending ++ [m] }
  | .action declared => .of (a.action declared)

/-- The first action that a component binds and nothing declares. -/
def undeclared? (a : Arena) : Option ActionId :=
  (a.nodes.flatMap fun n => n.modifiers.flatMap Modifier.actions).find? fun id =>
    !a.actions.any fun action => action.id = id

/-- The same arena, if no operation is missing. -/
def finish (a : Arena) : Except DecodeError Arena :=
  if !a.pending.isEmpty then .error (.malformedTree .danglingModifiers)
  else if !a.opened.isEmpty then .error (.malformedTree .unclosedContainer)
  else if a.nodes.isEmpty then .error (.malformedTree .noRoot)
  else match a.undeclared? with
    | some id => .error (.unknownAction id)
    | none => .ok a

/-- What operations declare, with containers nested up to a depth. -/
def ofOperations? (operations : List Operation) (maxDepth : Nat) : Checked DecodeError Arena := do
  .of (← operations.foldlM (step? maxDepth) start).finish

end Arena

end Panel
