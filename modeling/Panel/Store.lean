import Panel.Error

/-!
# The variable store

Slots in the order of their declaration, each with a name of its own, a value whose kind never
changes, and a mark on the constants, which never change at all.  Equal constants share one slot.
Some variables are also known to the host by a text.

* `declare`, `declareMutable` and `insert` add a slot;
* `get` and its typed forms read, `set` writes a value of the same kind;
* `allocate` finds the name of a new slot.
-/

namespace Panel

/-- One variable. -/
structure Slot where
  id : VariableId
  value : Value
  /-- A constant is shared by all declarations of its value and cannot be written. -/
  constant : Bool
deriving DecidableEq, Repr

/-- The variables of a document. -/
structure Store where
  /-- All slots, in declaration order. -/
  slots : List Slot
  /-- The names that the host knows variables by, each at most once. -/
  names : List (String × VariableId)
  /-- Where the search for the name of a new slot begins. -/
  nextId : UInt32
deriving DecidableEq, Repr

namespace Store

/-- The store that an author starts from; the first name it gives away is one. -/
def new : Store := ⟨[], [], 1⟩

/-- The store that a document with names of its own is loaded into. -/
def blank : Store := ⟨[], [], 0⟩

/-- The number of slots. -/
def size (s : Store) : Nat := s.slots.length

/-- The names of all slots, in declaration order. -/
def ids (s : Store) : List VariableId := s.slots.map (·.id)

/-- The slot with a name. -/
def slot? (s : Store) (id : VariableId) : Option Slot := s.slots.find? fun slot => slot.id = id

/-- Whether a slot has the name. -/
def contains (s : Store) (id : VariableId) : Bool := (s.slot? id).isSome

/-- Whether the name belongs to a constant. -/
def isConstant (s : Store) (id : VariableId) : Bool := (s.slot? id).any (·.constant)

/-! ## Names -/

/-- The name tried after `n`.  Zero is never handed out once a name has been. -/
def successor (n : UInt32) : UInt32 := if n + 1 = 0 then 1 else n + 1

/-- The first of `n`, `successor n`, … that is not taken, among the first `fuel + 1`. -/
def firstFree (taken : List VariableId) : Nat → UInt32 → UInt32
  | 0, n => n
  | fuel + 1, n => if ⟨n⟩ ∈ taken then firstFree taken fuel (successor n) else n

/-- A name that no slot has, and the store that remembers to look further on next time.  One of the
first `size + 1` candidates is free. -/
def allocate (s : Store) : VariableId × Store :=
  let n := firstFree s.ids s.size s.nextId
  (⟨n⟩, { s with nextId := successor n })

/-! ## Declarations -/

/-- Append a slot. -/
def push (s : Store) (slot : Slot) : Store := { s with slots := s.slots ++ [slot] }

/-- The constant that holds a value. -/
def interned? (s : Store) (value : Value) : Option VariableId :=
  (s.slots.find? fun slot => slot.constant && slot.value = value).map (·.id)

/-- The constant with a value, declared now unless it already is. -/
def declare (s : Store) (value : Value) : VariableId × Store :=
  match s.interned? value with
  | some id => (id, s)
  | none =>
    let (id, s) := s.allocate
    (id, s.push ⟨id, value, true⟩)

/-- A new variable. -/
def declareMutable (s : Store) (value : Value) : VariableId × Store :=
  let (id, s) := s.allocate
  (id, s.push ⟨id, value, false⟩)

/-- A new variable under a given name.  Later searches begin above it. -/
def insert (s : Store) (id : VariableId) (value : Value) : Except StoreError Store :=
  if s.contains id then
    .error (.duplicateVariable id)
  else
    let above := if id.number = 0xFFFFFFFF then id.number else id.number + 1
    .ok { s.push ⟨id, value, false⟩ with nextId := if s.nextId < above then above else s.nextId }

/-! ## Reads -/

/-- The value of a variable. -/
def get (s : Store) (id : VariableId) : Except StoreError Value :=
  match s.slot? id with
  | some slot => .ok slot.value
  | none => .error (.unknownVariable id)

/-- The kind of a variable. -/
def kind (s : Store) (id : VariableId) : Except StoreError Kind := do
  return (← s.get id).kind

/-- The integer in a variable. -/
def getInt (s : Store) (id : VariableId) : Except StoreError Int32 := do
  match ← s.get id with
  | .int value => .ok value
  | other => .error (.kindMismatch id (.kind .int) other.kind)

/-- The number in a variable. -/
def getFloat (s : Store) (id : VariableId) : Except StoreError Single := do
  match ← s.get id with
  | .float value => .ok value
  | other => .error (.kindMismatch id (.kind .float) other.kind)

/-- The text in a variable. -/
def getText (s : Store) (id : VariableId) : Except StoreError String := do
  match ← s.get id with
  | .text value => .ok value
  | other => .error (.kindMismatch id (.kind .text) other.kind)

/-- The color in a variable. -/
def getColor (s : Store) (id : VariableId) : Except StoreError Color := do
  match ← s.get id with
  | .color value => .ok value
  | other => .error (.kindMismatch id (.kind .color) other.kind)

/-- The list in a variable. -/
def getList (s : Store) (id : VariableId) : Except StoreError (List VariableId) := do
  match ← s.get id with
  | .list items => .ok items
  | other => .error (.kindMismatch id (.kind .list) other.kind)

/-- The integer or number in a variable. -/
def getScalar (s : Store) (id : VariableId) : Except StoreError Scalar := do
  let value ← s.get id
  match value.scalar? with
  | some scalar => .ok scalar
  | none => .error (.kindMismatch id .number value.kind)

/-- The variable at a position of a list. -/
def listGet (s : Store) (list : VariableId) (index : Int) : Except StoreError VariableId := do
  let items ← s.getList list
  match (if 0 ≤ index then items[index.toNat]? else none) with
  | some id => .ok id
  | none => .error (.indexOutOfBounds list index)

/-! ## Writes -/

/-- Replace the value of a variable, whatever it is. -/
def write (s : Store) (id : VariableId) (value : Value) : Store :=
  { s with slots := s.slots.map fun slot => if slot.id = id then { slot with value } else slot }

/-- Write a value of the variable's kind.  The answer also tells whether the value is a change. -/
def set (s : Store) (id : VariableId) (value : Value) : Except StoreError (Bool × Store) :=
  match s.slot? id with
  | none => .error (.unknownVariable id)
  | some slot =>
    if slot.constant then .error (.readOnly id)
    else if slot.value.kind ≠ value.kind then
      .error (.kindMismatch id (.kind slot.value.kind) value.kind)
    else .ok (!slot.value.agrees value, s.write id value)

/-! ## Host names -/

/-- Make a variable known to the host by a text.  A text stands for one variable, the last one. -/
def bindName (s : Store) (name : String) (id : VariableId) : Store :=
  { s with names := (name, id) :: s.names.filter fun entry => entry.1 ≠ name }

/-- The variable that the host knows by a text. -/
def lookupName (s : Store) (name : String) : Option VariableId := s.names.lookup name

end Store

end Panel
