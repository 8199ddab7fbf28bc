import Panel.Action
import Panel.Component.Resolve
import Panel.Derived
import Panel.Guarded.Access
import Panel.Store.Indexed

/-!
# Variables through the index

What reads or writes variables, with every slot taken from where the index says that it is.  There
is no answer if the index leads past the last slot.

* `IndexedStore.slotAt?` is the access that all others are made of.
-/

namespace Panel

/-! ## Views of a value -/

namespace Value

/-- The integer that a value is, if it is one. -/
def int? : Value → Option Int32
  | int value => some value
  | _ => none

/-- The text that a value is, if it is one. -/
def text? : Value → Option String
  | text value => some value
  | _ => none

/-- The color that a value is, if it is one. -/
def color? : Value → Option Color
  | color value => some value
  | _ => none

/-- The list that a value is, if it is one. -/
def list? : Value → Option (List VariableId)
  | list items => some items
  | _ => none

end Value

namespace IndexedStore

/-- The store that a document with names of its own is loaded into. -/
def blank : IndexedStore := { Store.blank with index := ∅, interned := ∅ }

/-! ## Reads -/

/-- The slot at a position. -/
def slotAt? (s : IndexedStore) (i : Nat) : Option Slot := s.slots[i]?

/-- The slot that the index leads to. -/
def fetch? (s : IndexedStore) (id : VariableId) : Checked StoreError Slot :=
  match s.index.lookup id with
  | none => throw (.unknownVariable id)
  | some i => s.slotAt? i

/-- The value of a variable. -/
def read? (s : IndexedStore) (id : VariableId) : Checked StoreError Value :=
  return (← s.fetch? id).value

/-- The value of a variable of some kind, as its view shows it. -/
def readKind? {α : Type} (s : IndexedStore) (kind : Kind) (view : Value → Option α)
    (id : VariableId) : Checked StoreError α := do
  let value ← s.read? id
  match view value with
  | some a => return a
  | none => throw (.kindMismatch id (.kind kind) value.kind)

/-- The integer in a variable. -/
def readInt? (s : IndexedStore) : VariableId → Checked StoreError Int32 :=
  s.readKind? .int Value.int?

/-- The text in a variable. -/
def readText? (s : IndexedStore) : VariableId → Checked StoreError String :=
  s.readKind? .text Value.text?

/-- The color in a variable. -/
def readColor? (s : IndexedStore) : VariableId → Checked StoreError Color :=
  s.readKind? .color Value.color?

/-- The list in a variable. -/
def readList? (s : IndexedStore) : VariableId → Checked StoreError (List VariableId) :=
  s.readKind? .list Value.list?

/-- The integer or number in a variable. -/
def readScalar? (s : IndexedStore) (id : VariableId) : Checked StoreError Scalar := do
  let value ← s.read? id
  match value.scalar? with
  | some scalar => return scalar
  | none => throw (.kindMismatch id .number value.kind)

/-- The variable at a position of a list. -/
def readItem? (s : IndexedStore) (list : VariableId) (index : Int) :
    Checked StoreError VariableId := do
  let items ← s.readList? list
  match (if 0 ≤ index then items[index.toNat]? else none) with
  | some id => return id
  | none => throw (.indexOutOfBounds list index)

/-! ## Writes -/

/-- Write a value of the variable's kind, to the slot that the index leads to.  The answer also
tells whether the value is a change. -/
def write? (s : IndexedStore) (id : VariableId) (value : Value) :
    Checked StoreError (Bool × IndexedStore) :=
  match s.index.lookup id with
  | none => throw (.unknownVariable id)
  | some i => do
    let slot ← s.slotAt? i
    if slot.constant then
      throw (.readOnly id)
    else if slot.value.kind ≠ value.kind then
      throw (.kindMismatch id (.kind slot.value.kind) value.kind)
    else
      return (!slot.value.agrees value, { s with slots := s.slots.set i { slot with value } })

end IndexedStore

/-! ## Derived variables -/

/-- The value of an expression over the current variables. -/
def Expression.evaluate? (store : IndexedStore) : Expression → Checked StoreError Scalar
  | constant value => return value
  | reference id => store.readScalar? id
  | binary op lhs rhs => do
    let a ← lhs.evaluate? store
    let b ← rhs.evaluate? store
    return op.apply a b
  | unary op operand => do
    return op.apply (← operand.evaluate? store)

namespace Recipe

/-- The variables that a recipe reads. -/
def dependencies? (store : IndexedStore) : Recipe → Option (List VariableId)
  | integer e => some e.reads
  | float e => some e.reads
  | textLookup list index => do
    match ← (store.readList? list).run with
    | .ok items => return items.foldl VariableId.addTo [list, index]
    | .error _ => return [list, index]
  | textFromNumber source _ => some [source]

/-- What a recipe computes from the current variables. -/
def compute? (store : IndexedStore) : Recipe → Checked StoreError Value
  | integer e => return .int (← e.evaluate? store).toInt32
  | float e => return .float (← e.evaluate? store).toSingle
  | textLookup list index => do
    let index ← store.readInt? index
    let element ← store.readItem? list index.toInt
    return .text (← store.readText? element)
  | textFromNumber source places => do
    match ← store.read? source with
    | .int v => return .text (Decimal.signed v.toInt)
    | .float v => return .text (Decimal.fixed places.toNat v)
    | other => throw (.kindMismatch source .number other.kind)

/-- What a recipe computes, or the default of its kind where it fails. -/
def value? (store : IndexedStore) (recipe : Recipe) : Option Value := do
  match ← (recipe.compute? store).run with
  | .ok value => return value
  | .error _ => return .default recipe.kind

end Recipe

/-- Recompute one derived variable.  The answer also tells whether its value changed; a slot that
cannot be written stays as it is. -/
def DerivedVariable.refresh? (d : DerivedVariable) (store : IndexedStore) :
    Option (Bool × IndexedStore) := do
  match ← (store.write? d.id (← d.recipe.value? store)).run with
  | .ok written => return written
  | .error _ => return (false, store)

/-- The store after recomputing all derived variables in order. -/
def IndexedStore.refresh? (derived : List DerivedVariable) (store : IndexedStore) :
    Option IndexedStore :=
  derived.foldlM (fun store d => return (← d.refresh? store).2) store

/-! ## Actions -/

namespace Effect

/-- Write a variable and report it. -/
def writing? (store : IndexedStore) (target : VariableId) (value : Value) :
    Checked StoreError (Outcome × IndexedStore) := do
  let (changed, store) ← store.write? target value
  return (.written target changed, store)

/-- Let the effect happen. -/
def perform? (store : IndexedStore) : Effect → Checked StoreError (Outcome × IndexedStore)
  | setInteger target value => writing? store target (.int value)
  | setFloat target value => writing? store target (.float value)
  | copyText target text => do writing? store target (.text (← store.readText? text))
  | copyInteger target expression => do
    writing? store target (.int (← store.readScalar? expression).toInt32)
  | host request => return (.host request, store)

end Effect

/-! ## What references stand for -/

/-- The text that a reference stands for at present. -/
def IndexedStore.resolveText? (store : IndexedStore) (id : VariableId) : Option String := do
  match ← (store.readText? id).run with
  | .ok text => return text
  | .error _ => return ""

/-- The color that a reference stands for at present. -/
def IndexedStore.resolveColor? (store : IndexedStore) (id : VariableId) : Option Color := do
  match ← (store.readColor? id).run with
  | .ok color => return color
  | .error _ => return .transparent

/-- The visibility that a source stands for at present. -/
def VisibilitySource.resolve? (store : IndexedStore) : VisibilitySource → Option Visibility
  | literal visibility => some visibility
  | reference id => do
    match ← (store.readInt? id).run with
    | .ok value => return .ofInt value
    | .error _ => return .visible

/-- The visibility that modifiers give a component at present. -/
def Modifiers.resolvedVisibility? (store : IndexedStore) (ms : Modifiers) : Option Visibility :=
  (Modifiers.visibility ms).resolve? store

end Panel
