import Mathlib.Data.List.AList
import Mathlib.Data.PFun
import Panel.Store

/-!
# The store with an index

A store can keep two tables beside its slots: where the slot of each name stands, and which constant
holds each value.  No slot has then to be searched for, but a slot that the index leads to has to be
there, and the search for a new name asks the index until it says no, however long that takes.  A
call that finds no slot where the index leads, or never leaves the search, has no answer.

* `InternKey` is what makes two values the same constant;
* `IndexedStore.call` and `Store.call` are one call on the store with the tables and on the store
  without them.
-/

namespace Panel

/-- What the table of constants knows a value by. -/
inductive InternKey where
  | int (value : Int32)
  | float (bits : UInt32)
  | text (value : String)
  | color (word : UInt32)
  | list (numbers : List UInt32)
deriving DecidableEq, Repr

/-- The key of a value: numbers by their bits, a color by its word, a list by the numbers of its
variables. -/
def Value.internKey : Value → InternKey
  | int value => .int value
  | float value => .float value.bits
  | text value => .text value
  | color value => .color value.toWord
  | list items => .list (items.map (·.number))

/-! ## Calls -/

/-- A call that declares, writes or names a variable. -/
inductive StoreCall where
  | declare (value : Value)
  | declareMutable (value : Value)
  | insert (id : VariableId) (value : Value)
  | set (id : VariableId) (value : Value)
  | bindName (name : String) (id : VariableId)
deriving DecidableEq, Repr

/-- What a call gives back. -/
inductive StoreAnswer where
  | id (id : VariableId)
  /-- Whether the value written is a change. -/
  | written (changed : Bool)
  | done
  | refused (error : StoreError)
deriving DecidableEq, Repr

namespace Store

/-- One call. -/
def call (s : Store) : StoreCall → StoreAnswer × Store
  | .declare value =>
    let (id, s) := s.declare value
    (.id id, s)
  | .declareMutable value =>
    let (id, s) := s.declareMutable value
    (.id id, s)
  | .insert id value =>
    match s.insert id value with
    | .ok s => (.done, s)
    | .error e => (.refused e, s)
  | .set id value =>
    match s.set id value with
    | .ok (changed, s) => (.written changed, s)
    | .error e => (.refused e, s)
  | .bindName name id => (.done, s.bindName name id)

/-- Calls one after the other, with the answers to them. -/
def run (s : Store) : List StoreCall → List StoreAnswer × Store
  | [] => ([], s)
  | c :: calls =>
    let (answer, s) := s.call c
    let (answers, s) := s.run calls
    (answer :: answers, s)

end Store

/-! ## The tables -/

/-- A store with its tables. -/
structure IndexedStore extends Store where
  /-- The position of the slot with a name. -/
  index : AList fun _ : VariableId => Nat
  /-- The constant that was declared for a key. -/
  interned : AList fun _ : InternKey => VariableId

namespace IndexedStore

/-- The store that an author starts from. -/
def new : IndexedStore := { Store.new with index := ∅, interned := ∅ }

/-- Whether the index has the name. -/
def contains (s : IndexedStore) (id : VariableId) : Bool := (s.index.lookup id).isSome

/-- The first of `n`, `successor n`, … that the index does not have, if there is one. -/
def search (s : IndexedStore) : UInt32 →. UInt32 :=
  PFun.fix fun n => Part.some (if s.contains ⟨n⟩ then .inr (Store.successor n) else .inl n)

/-- A name that no slot has, and the store that remembers to look further on next time. -/
def allocate (s : IndexedStore) : Part (VariableId × IndexedStore) := do
  let n ← s.search s.nextId
  return (⟨n⟩, { s with nextId := Store.successor n })

/-- Append a slot. -/
def push (s : IndexedStore) (slot : Slot) : IndexedStore :=
  { s with slots := s.slots ++ [slot], index := s.index.insert slot.id s.slots.length }

/-- The constant with a value, declared now unless it already is. -/
def declare (s : IndexedStore) (value : Value) : Part (VariableId × IndexedStore) :=
  match s.interned.lookup value.internKey with
  | some id => return (id, s)
  | none => do
    let (id, s) ← s.allocate
    let s := s.push ⟨id, value, true⟩
    return (id, { s with interned := s.interned.insert value.internKey id })

/-- A new variable. -/
def declareMutable (s : IndexedStore) (value : Value) : Part (VariableId × IndexedStore) := do
  let (id, s) ← s.allocate
  return (id, s.push ⟨id, value, false⟩)

/-- A new variable under a given name.  Later searches begin above it. -/
def insert (s : IndexedStore) (id : VariableId) (value : Value) :
    Except StoreError IndexedStore :=
  if s.contains id then
    .error (.duplicateVariable id)
  else
    let above := if id.number = 0xFFFFFFFF then id.number else id.number + 1
    .ok { s.push ⟨id, value, false⟩ with nextId := if s.nextId < above then above else s.nextId }

/-- Write a value of the variable's kind, to the slot that the index leads to. -/
def set (s : IndexedStore) (id : VariableId) (value : Value) :
    Part (Except StoreError (Bool × IndexedStore)) :=
  match s.index.lookup id with
  | none => return .error (.unknownVariable id)
  | some i => do
    let slot ← Part.ofOption s.slots[i]?
    if slot.constant then
      return .error (.readOnly id)
    else if slot.value.kind ≠ value.kind then
      return .error (.kindMismatch id (.kind slot.value.kind) value.kind)
    else
      let changed := !slot.value.agrees value
      return .ok (changed, { s with slots := s.slots.set i { slot with value } })

/-- Make a variable known to the host by a text. -/
def bindName (s : IndexedStore) (name : String) (id : VariableId) : IndexedStore :=
  { s with toStore := s.toStore.bindName name id }

/-- One call. -/
def call (s : IndexedStore) : StoreCall → Part (StoreAnswer × IndexedStore)
  | .declare value => do
    let (id, s) ← s.declare value
    return (.id id, s)
  | .declareMutable value => do
    let (id, s) ← s.declareMutable value
    return (.id id, s)
  | .insert id value =>
    match s.insert id value with
    | .ok s => return (.done, s)
    | .error e => return (.refused e, s)
  | .set id value => do
    match ← s.set id value with
    | .ok (changed, s) => return (.written changed, s)
    | .error e => return (.refused e, s)
  | .bindName name id => return (.done, s.bindName name id)

end IndexedStore

end Panel
