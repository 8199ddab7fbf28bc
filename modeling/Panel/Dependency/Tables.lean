import Mathlib.Data.Finset.Sort
import Mathlib.Data.List.AList
import Mathlib.Data.PFun
import Panel.Dependency

/-!
# The dependency index as tables

Who reads what can be kept in two tables that are filled once: the components that mention a
variable, and the derived variables that are computed from it.  The components that depend on a
variable are then found by a search through the second table, which goes on until nothing is
waiting, however long that takes.

* `DependencyTables.of` fills the tables;
* `DependencyTables.search` is one search, `DependencyTables.affected` its answer in order.
-/

namespace Panel

/-- Who reads what, by what is read. -/
structure DependencyTables where
  /-- The numbers of the components that mention a variable. -/
  readers : AList fun _ : VariableId => List Nat
  /-- The derived variables that are computed from a variable. -/
  dependents : AList fun _ : VariableId => List VariableId

namespace DependencyTables

/-- The tables before anything is entered. -/
def empty : DependencyTables := ⟨∅, ∅⟩

/-- The components entered for a variable. -/
def readersOf (t : DependencyTables) (id : VariableId) : List Nat := (t.readers.lookup id).getD []

/-- The derived variables entered for a variable. -/
def dependentsOf (t : DependencyTables) (id : VariableId) : List VariableId :=
  (t.dependents.lookup id).getD []

/-! ## Filling the tables -/

/-- Enter a component that mentions a variable, unless it is entered already. -/
def addReader (i : Nat) (t : DependencyTables) (id : VariableId) : DependencyTables :=
  let readers := t.readersOf id
  { t with readers := t.readers.insert id (if i ∈ readers then readers else readers ++ [i]) }

/-- Enter a derived variable that is computed from a variable. -/
def addDependent (reader : VariableId) (t : DependencyTables) (id : VariableId) :
    DependencyTables :=
  { t with dependents := t.dependents.insert id (t.dependentsOf id ++ [reader]) }

/-- Enter a component with a number. -/
def addNode (t : DependencyTables) : Node × Nat → DependencyTables
  | (n, i) => n.reads.foldl (addReader i) t

/-- Enter a derived variable. -/
def addDerived (store : Store) (t : DependencyTables) (d : DerivedVariable) : DependencyTables :=
  (d.recipe.dependencies store).foldl (addDependent d.id) t

/-- The tables of a tree, derived variables and a store. -/
def of (nodes : List Node) (derived : List DerivedVariable) (store : Store) : DependencyTables :=
  derived.foldl (addDerived store) (nodes.zipIdx.foldl addNode empty)

/-! ## Searching -/

/-- How far a search has come. -/
structure Search where
  /-- The variables that wait for their turn. -/
  queue : List VariableId
  /-- The variables that ever joined the queue. -/
  seen : Finset VariableId
  /-- The components found so far. -/
  components : Finset Nat

/-- A variable joins the queue unless it did before. -/
def Search.join (s : Search) (id : VariableId) : Search :=
  if id ∈ s.seen then s else { s with queue := s.queue ++ [id], seen := insert id s.seen }

/-- Take one variable off the queue, or end with the components found. -/
def step (t : DependencyTables) (s : Search) : Finset Nat ⊕ Search :=
  match s.queue with
  | [] => .inl s.components
  | id :: queue =>
    let components := s.components ∪ (t.readersOf id).toFinset
    .inr ((t.dependentsOf id).foldl Search.join { s with queue, components })

/-- Take variables off the queue until there are none. -/
def search (t : DependencyTables) : Search →. Finset Nat :=
  PFun.fix fun s => Part.some (t.step s)

/-- The components that depend on a variable, by number in ascending order. -/
def affected (t : DependencyTables) (id : VariableId) : Part (List Nat) := do
  let components ← t.search ⟨[id], {id}, ∅⟩
  return components.sort

end DependencyTables

end Panel
