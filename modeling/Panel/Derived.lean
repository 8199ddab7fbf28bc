import Panel.Decimal.Fixed
import Panel.Expression.Evaluation

/-!
# Derived variables

A derived variable is a slot with a recipe that computes its value from other slots.
`Store.refresh` recomputes every derived variable in the order of declaration and writes the results
back, so that later recipes see what earlier ones have just computed.  Where a recipe fails, the
slot takes the default of its kind.
-/

namespace Panel

/-- How a derived variable gets its value. -/
inductive Recipe where
  /-- The value of an expression, as an integer. -/
  | integer (expression : Expression)
  /-- The value of an expression, as a number. -/
  | float (expression : Expression)
  /-- The text in the variable that a list names at the position held by an integer variable. -/
  | textLookup (list index : VariableId)
  /-- The decimal text of a numeric variable, with a number of places unless it is an integer. -/
  | textFromNumber (source : VariableId) (places : UInt8)
deriving DecidableEq, Repr

/-- A slot with its recipe. -/
structure DerivedVariable where
  id : VariableId
  recipe : Recipe
deriving DecidableEq, Repr

namespace Recipe

/-- The kind of what a recipe computes. -/
def kind : Recipe → Kind
  | integer _ => .int
  | float _ => .float
  | textLookup .. => .text
  | textFromNumber .. => .text

/-- The variables that a recipe reads.  A lookup may come to read any element of its list as the
list now stands. -/
def dependencies (store : Store) : Recipe → List VariableId
  | integer e => e.reads
  | float e => e.reads
  | textLookup list index =>
    match store.getList list with
    | .ok items => items.foldl VariableId.addTo [list, index]
    | .error _ => [list, index]
  | textFromNumber source _ => [source]

/-- What a recipe computes from the current variables. -/
def compute (store : Store) : Recipe → Except StoreError Value
  | integer e => do return .int (← e.evaluate store).toInt32
  | float e => do return .float (← e.evaluate store).toSingle
  | textLookup list index => do
    let index ← store.getInt index
    let element ← store.listGet list index.toInt
    return .text (← store.getText element)
  | textFromNumber source places => do
    match ← store.get source with
    | .int v => return .text (Decimal.signed v.toInt)
    | .float v => return .text (Decimal.fixed places.toNat v)
    | other => .error (.kindMismatch source .number other.kind)

/-- What a recipe computes, or the default of its kind where it fails. -/
def value (store : Store) (recipe : Recipe) : Value :=
  match recipe.compute store with
  | .ok value => value
  | .error _ => .default recipe.kind

end Recipe

namespace DerivedVariable

/-- Recompute one derived variable.  The answer also tells whether its value changed; a slot that
cannot be written stays as it is. -/
def refresh (d : DerivedVariable) (store : Store) : Bool × Store :=
  match store.set d.id (d.recipe.value store) with
  | .ok written => written
  | .error _ => (false, store)

end DerivedVariable

/-- Recompute all derived variables in order.  The answer lists those whose value changed. -/
def Store.refresh : List DerivedVariable → Store → List VariableId × Store
  | [], store => ([], store)
  | d :: rest, store =>
    let (changed, store) := d.refresh store
    let (others, store) := store.refresh rest
    (if changed then d.id :: others else others, store)

/-- The store after recomputing all derived variables in order. -/
def Store.refreshed (derived : List DerivedVariable) (store : Store) : Store :=
  (store.refresh derived).2

end Panel
