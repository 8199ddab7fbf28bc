import Panel.Guarded.Cursor
import Panel.Wire.Encoding
import Panel.Wire.Reader

/-!
# Read calls

The reads of one field, as data.  A field begins with a part of fixed width.  In a text and in a
list that part is a number, and so many units follow it.

* `Field.guarded` reads a field through a cursor, `Field.read` from the front of a reader;
* `Field.Spells` says which bytes a value is written as, and `Field.size` how many they are;
* `Field.extent` is how many bytes a field takes up, as far as the bytes at hand tell;
* `Call.run` makes one call after the other on the same cursor, whether they fail or not.
-/

namespace Panel.Wire

/-- A read of one field. -/
inductive Field : Type → Type 1
  | byte : Field UInt8
  | word16 : Field UInt16
  | word32 : Field UInt32
  | int32 : Field Int32
  | single : Field Single
  | variableId : Field VariableId
  | componentId : Field ComponentId
  | actionId : Field ActionId
  | text : Field String
  | idList : Field (List UInt32)
  | coded {α : Type} (ofCode? : UInt8 → Option α) (reason : String) : Field α

namespace Field

variable {α : Type}

def guarded : Field α → Guarded α
  | byte => Guarded.byte
  | word16 => Guarded.word16
  | word32 => Guarded.word32
  | int32 => Guarded.int32
  | single => Guarded.single
  | variableId => Guarded.variableId
  | componentId => Guarded.componentId
  | actionId => Guarded.actionId
  | text => Guarded.text
  | idList => Guarded.idList
  | coded ofCode? reason => Guarded.coded ofCode? reason

def read : Field α → Read α
  | byte => Read.byte
  | word16 => Read.word16
  | word32 => Read.word32
  | int32 => Read.int32
  | single => Read.single
  | variableId => Read.variableId
  | componentId => Read.componentId
  | actionId => Read.actionId
  | text => Read.text
  | idList => Read.idList
  | coded ofCode? reason => Read.coded ofCode? reason

/-! ## Values and the bytes that spell them -/

/-- What a value may be written as. -/
def Encodes : Field α → α → Encoding → Prop
  | byte, b, e => e = .byte b
  | word16, n, e => e = .word16 n
  | word32, n, e => e = .word32 n
  | int32, i, e => e = .int32 i
  | single, x, e => e = .single x
  | variableId, id, e => e = .variableId id
  | componentId, id, e => e = .componentId id
  | actionId, id, e => e = .actionId id
  | text, s, e => e = .text s
  | idList, ids, e => ∃ what, e = .idList what ids
  | coded ofCode? _, a, e => ∃ b, ofCode? b = some a ∧ e = .byte b

/-- Some bytes are all that is written for a value. -/
def Spells (field : Field α) (a : α) (bytes : List UInt8) : Prop :=
  field.Encodes a (.ofBytes bytes)

/-- The width of the part that every field begins with. -/
def width : Field α → Nat
  | byte | coded .. => 1
  | word16 | idList => 2
  | word32 | int32 | single | variableId | componentId | actionId | text => 4

/-- The number of bytes behind the first part. -/
def payload : Field α → α → Nat
  | text, s => s.utf8ByteSize
  | idList, ids => 4 * ids.length
  | _, _ => 0

/-- The number of bytes that a value is written as. -/
def size (field : Field α) (a : α) : Nat := field.width + field.payload a

/-! ## Bytes that a field takes up -/

/-- The number of bytes for each of those that the first part counts. -/
def unit : Field α → Nat
  | text => 1
  | idList => 4
  | _ => 0

/-- The number of bytes that the field in front of others takes up.  If its first part is not there
then nothing more is known to belong to it. -/
def extent (field : Field α) (rest : List UInt8) : Nat :=
  if rest.length < field.width then field.width
  else field.width + field.unit * ofBytes (rest.take field.width)

/-- How far behind the start of a field the part begins that its failures report on. -/
def lead (field : Field α) (rest : List UInt8) : Nat :=
  if rest.length < field.width ∨ field.unit = 0 then 0 else field.width

/-- The number of bytes that a call passes over, by what came of it. -/
def passed (field : Field α) (rest : List UInt8) : Except DecodeError α → Nat
  | .ok a => field.size a
  | .error (.invalidOperand ..) => field.extent rest
  | .error _ => 0

end Field

/-- A read of one field, whatever the field holds. -/
abbrev Call := Σ α : Type, Field α

/-- Calls one after the other on the same cursor, those after a failure too, with the number of
bytes that they pass over. -/
def Call.run : List Call → Cursor → Option (Nat × Cursor)
  | [], c => some (0, c)
  | ⟨_, field⟩ :: calls, c => do
    let (result, d) ← field.guarded c
    let (more, e) ← run calls d
    return (field.passed (c.buffer.drop c.position) result + more, e)

end Panel.Wire
