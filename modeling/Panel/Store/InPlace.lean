import Panel.Guarded.Store

/-!
# Stores changed in place

Whatever changes variables can do so on one store, a step at a time.  It may stop with an error at
any step, and then the store is what the steps before have made of it; it has no answer if the index
leads past the last slot or a search does not end.

* `Mutation` is a computation on such a store, and `Mutation.on` lets it happen;
* `StoreUse.mutation` is one use of a store: a call, an action, or a round of derived variables.
-/

namespace Panel

/-- A computation that changes a store in place, and may stop with an error. -/
abbrev Mutation (α : Type) := ExceptT StoreError (StateT IndexedStore Part) α

namespace Mutation

/-- Let a computation happen to a store. -/
def on {α : Type} (m : Mutation α) (s : IndexedStore) : Part (Except StoreError α × IndexedStore) :=
  m.run.run s

/-- Read from the store as it is. -/
def reading {α : Type} (read : IndexedStore → Checked StoreError α) : Mutation α := .mk do
  let s ← get
  (Part.ofOption (read s).run : Part (Except StoreError α))

/-! ## Declarations -/

/-- A name that no slot has.  Later searches begin after it. -/
def allocate : Mutation VariableId := do
  let s ← get
  let n ← (s.search s.nextId : Part UInt32)
  modify fun s => { s with nextId := Store.successor n }
  return ⟨n⟩

/-- The constant with a value, declared now unless it already is. -/
def declare (value : Value) : Mutation VariableId := do
  match (← get).interned.lookup value.internKey with
  | some id => return id
  | none =>
    let id ← allocate
    modify (·.push ⟨id, value, true⟩)
    modify fun s => { s with interned := s.interned.insert value.internKey id }
    return id

/-- A new variable. -/
def declareMutable (value : Value) : Mutation VariableId := do
  let id ← allocate
  modify (·.push ⟨id, value, false⟩)
  return id

/-- A new variable under a given name.  Later searches begin above it. -/
def insert (id : VariableId) (value : Value) : Mutation Unit := do
  if (← get).contains id then throw (.duplicateVariable id)
  else
    modify (·.push ⟨id, value, false⟩)
    let above := if id.number = 0xFFFFFFFF then id.number else id.number + 1
    modify fun s => { s with nextId := if s.nextId < above then above else s.nextId }

/-! ## Writes -/

/-- Write a value of the variable's kind, to the slot that the index leads to.  The answer tells
whether the value is a change. -/
def write (id : VariableId) (value : Value) : Mutation Bool := do
  let s ← get
  match s.index.lookup id with
  | none => throw (.unknownVariable id)
  | some i =>
    let slot ← (Part.ofOption s.slots[i]? : Part Slot)
    if slot.constant then throw (.readOnly id)
    else if slot.value.kind ≠ value.kind then
      throw (.kindMismatch id (.kind slot.value.kind) value.kind)
    else
      modify fun s => { s with slots := s.slots.set i { slot with value } }
      return !slot.value.agrees value

/-- Write a variable and report it. -/
def assign (target : VariableId) (value : Value) : Mutation Outcome := do
  return .written target (← write target value)

/-- Let an effect happen. -/
def apply : Effect → Mutation Outcome
  | .setInteger target value => assign target (.int value)
  | .setFloat target value => assign target (.float value)
  | .copyText target text => do assign target (.text (← reading (·.readText? text)))
  | .copyInteger target expression => do
    assign target (.int (← reading (·.readScalar? expression)).toInt32)
  | .host request => return .host request

/-- Recompute one derived variable.  The answer tells whether its value changed. -/
def refreshOne (d : DerivedVariable) : Mutation Bool := do
  let value ← tryCatch (reading (d.recipe.compute? ·)) fun _ => return .default d.recipe.kind
  tryCatch (write d.id value) fun _ => return false

/-- Recompute one derived variable.  It joins those whose value changed if its value does. -/
def refreshNext (changed : List VariableId) (d : DerivedVariable) : Mutation (List VariableId) := do
  if ← refreshOne d then return changed ++ [d.id] else return changed

/-- Recompute derived variables in order.  The answer lists those whose value changed. -/
def refresh (derived : List DerivedVariable) : Mutation (List VariableId) :=
  derived.foldlM refreshNext []

end Mutation

/-! ## Uses -/

/-- A use of a store. -/
inductive StoreUse where
  | call (c : StoreCall)
  | apply (effect : Effect)
  | refresh (derived : List DerivedVariable)
deriving DecidableEq, Repr

/-- What a use gives back unless it fails. -/
inductive StoreReply where
  | id (id : VariableId)
  | written (changed : Bool)
  | done
  | outcome (outcome : Outcome)
  | changed (ids : List VariableId)
deriving DecidableEq, Repr

/-- What a use does. -/
def StoreUse.mutation : StoreUse → Mutation StoreReply
  | call (.declare value) => do return .id (← Mutation.declare value)
  | call (.declareMutable value) => do return .id (← Mutation.declareMutable value)
  | call (.insert id value) => do
    Mutation.insert id value
    return .done
  | call (.set id value) => do return .written (← Mutation.write id value)
  | call (.bindName name id) => do
    modify (·.bindName name id)
    return .done
  | apply effect => do return .outcome (← Mutation.apply effect)
  | refresh derived => do return .changed (← Mutation.refresh derived)

end Panel
