import Panel.Content.Basic

/-!
# Dependencies between variables and components

A component depends on the variables that it mentions, and through them on whatever they are
computed from.  A `DependencyIndex` remembers who mentions what at one moment; only the elements of
lists that lookups may come to read depend on that moment.

* `affected` lists the components that depend on a variable.
-/

namespace Panel

/-- Who reads what. -/
structure DependencyIndex where
  /-- The variables that each component mentions, by number. -/
  mentions : List (List VariableId)
  /-- The variables that each derived variable reads. -/
  derived : List (VariableId × List VariableId)
deriving DecidableEq, Repr

namespace DependencyIndex

/-- The index of some content. -/
def of (content : Content) : DependencyIndex where
  mentions := content.tree.nodes.map Node.reads
  derived := content.derived.map fun d => (d.id, d.recipe.dependencies content.store)

/-- The derived variables that read a variable. -/
def readersOf (index : DependencyIndex) (id : VariableId) : List VariableId :=
  (index.derived.filter fun d => id ∈ d.2).map (·.1)

/-- Extend `seen` by all that is computed from the variables of `queue`, directly or not.  Every
variable that joins the queue is a derived one and joins it once, which bounds the steps. -/
def spread (index : DependencyIndex) : Nat → List VariableId → List VariableId → List VariableId
  | 0, _, seen => seen
  | _ + 1, [], seen => seen
  | steps + 1, id :: queue, seen =>
    let fresh := ((index.readersOf id).foldl VariableId.addTo []).filter (· ∉ seen)
    index.spread steps (queue ++ fresh) (seen ++ fresh)

/-- A variable and all that is computed from it, directly or not. -/
def reach (index : DependencyIndex) (id : VariableId) : List VariableId :=
  index.spread (index.derived.length + 1) [id] [id]

/-- The components that depend on a variable, by number in ascending order. -/
def affected (index : DependencyIndex) (id : VariableId) : List Nat :=
  let reached := index.reach id
  (List.range index.mentions.length).filter fun i =>
    (index.mentions.getD i []).any (· ∈ reached)

/-- The components that depend on some variables, by number in ascending order. -/
def affectedBy (index : DependencyIndex) (ids : List VariableId) : List Nat :=
  let each := ids.map index.affected
  (List.range index.mentions.length).filter fun i => each.any (i ∈ ·)

end DependencyIndex

end Panel
