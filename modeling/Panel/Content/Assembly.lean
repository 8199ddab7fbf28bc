import Panel.Content.Basic
import Panel.Operation

/-!
# Assembling content from operations

One pass over the operations of a document.  Containers that are not closed yet wait on a stack,
each with the children it has so far; modifiers wait for the component that they decorate.

* `Assembly.step` takes one operation in, `Assembly.finish` checks that nothing is left waiting;
* `Content.ofOperations` is the whole pass.
-/

namespace Panel

/-- A container that is still open. -/
structure Scope where
  id : ComponentId
  kind : ComponentKind
  modifiers : Modifiers
  /-- The children so far, in order. -/
  children : List Component
deriving Repr

/-- The component that a scope becomes when it is closed. -/
def Scope.close (s : Scope) : Component := .node s.id s.kind s.modifiers s.children

/-- What has been declared by the operations so far. -/
structure Assembly where
  store : Store
  derived : List DerivedVariable
  actions : List Action
  /-- The names of all components, in order. -/
  components : List ComponentId
  /-- Modifiers that wait for their component. -/
  pending : Modifiers
  /-- The open containers, the innermost first. -/
  scopes : List Scope
  /-- The finished tree. -/
  root : Option Component
deriving Repr

namespace Assembly

/-- Nothing declared. -/
def start : Assembly := ⟨.blank, [], [], [], [], [], none⟩

/-- Declare a variable. -/
def declare (a : Assembly) (id : VariableId) (value : Value) : Except DecodeError Assembly :=
  match a.store.insert id value with
  | .ok store => .ok { a with store }
  | .error _ => .error (.duplicateVariable id)

/-- Declare a derived variable.  It holds the default of its kind until it is first computed. -/
def derive (a : Assembly) (d : DerivedVariable) : Except DecodeError Assembly := do
  let a ← a.declare d.id (.default d.recipe.kind)
  return { a with derived := a.derived ++ [d] }

/-- Put a finished component where it belongs: inside the innermost open container, or at the
root. -/
def attach (a : Assembly) (c : Component) : Assembly :=
  match a.scopes with
  | [] => { a with root := some c }
  | s :: outer => { a with scopes := { s with children := s.children ++ [c] } :: outer }

/-- Declare a component, which takes the waiting modifiers. -/
def component (maxDepth : Nat) (a : Assembly) (id : ComponentId) (kind : ComponentKind) :
    Except DecodeError Assembly :=
  if a.scopes.isEmpty && a.root.isSome then .error (.malformedTree .secondRoot)
  else if a.scopes.isEmpty && !kind.isContainer then .error (.malformedTree .leafRoot)
  else if maxDepth < a.scopes.length + 1 then .error (.nestingTooDeep maxDepth)
  else if id ∈ a.components then .error (.duplicateComponent id)
  else
    let modifiers := a.pending
    let a := { a with components := a.components ++ [id], pending := [] }
    if kind.isContainer then .ok { a with scopes := ⟨id, kind, modifiers, []⟩ :: a.scopes }
    else .ok (a.attach (.node id kind modifiers []))

/-- Close the innermost open container. -/
def close (a : Assembly) : Except DecodeError Assembly :=
  if !a.pending.isEmpty then .error (.malformedTree .danglingModifiers)
  else match a.scopes with
    | [] => .error (.malformedTree .unopenedEnd)
    | s :: outer => .ok ({ a with scopes := outer }.attach s.close)

/-- Declare an action. -/
def action (a : Assembly) (action : Action) : Except DecodeError Assembly :=
  if a.actions.any fun other => other.id = action.id then .error (.duplicateAction action.id)
  else .ok { a with actions := a.actions ++ [action] }

/-- Take in one operation. -/
def step (maxDepth : Nat) (a : Assembly) : Operation → Except DecodeError Assembly
  | .value id value => a.declare id value
  | .name id name => .ok { a with store := a.store.bindName name id }
  | .derived d => a.derive d
  | .component id kind => a.component maxDepth id kind
  | .containerEnd => a.close
  | .modifier m => .ok { a with pending := a.pending ++ [m] }
  | .action declared => a.action declared

/-- The first action that a tree binds and nothing declares. -/
def undeclared? (actions : List Action) (root : Component) : Option ActionId :=
  (root.preorder.flatMap fun c => c.modifiers.flatMap Modifier.actions).find? fun id =>
    !actions.any fun a => a.id = id

/-- The content, if no operation is missing. -/
def finish (a : Assembly) : Except DecodeError Content :=
  if !a.pending.isEmpty then .error (.malformedTree .danglingModifiers)
  else if !a.scopes.isEmpty then .error (.malformedTree .unclosedContainer)
  else match a.root with
    | none => .error (.malformedTree .noRoot)
    | some root =>
      match undeclared? a.actions root with
      | some id => .error (.unknownAction id)
      | none => .ok ⟨a.store, a.derived, ⟨root⟩, a.actions⟩

end Assembly

/-- The content that operations declare, with containers nested up to a depth. -/
def Content.ofOperations (operations : List Operation) (maxDepth : Nat) :
    Except DecodeError Content := do
  (← operations.foldlM (Assembly.step maxDepth) .start).finish

end Panel
