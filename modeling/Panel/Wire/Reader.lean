import Panel.Error
import Panel.Wire.BigEndian

/-!
# Reading bytes

A `Reader` is a place in a buffer: its offset and the bytes from there on.  A `Read` takes a value
from the front, and where it fails it says what it leaves of the reader:

* a field that does not fit is left where it is, together with its own length prefix;
* a field that fits but makes no sense is passed over.
-/

namespace Panel.Wire

/-- A place in a buffer. -/
structure Reader where
  /-- The distance from the start of the buffer, on which failures report. -/
  offset : Nat
  /-- What has not been read. -/
  rest : List UInt8
deriving DecidableEq, Repr

/-- The number of bytes not yet read. -/
def Reader.remaining (r : Reader) : Nat := r.rest.length

/-- Whether everything has been read. -/
def Reader.isEmpty (r : Reader) : Bool := r.rest.isEmpty

/-- Taking a value from the front of a reader. -/
abbrev Read := EStateM DecodeError Reader

namespace Read

/-! ## Numbers -/

/-- The offset of the next byte. -/
def offset : Read Nat := fun r => .ok r.offset r

/-- A number of bytes, or none of them if so many are not left. -/
def bytes (count : Nat) : Read (List UInt8) := fun r =>
  let front := r.rest.take count
  if front.length < count then
    .error (.truncated r.offset (count - front.length)) r
  else
    .ok front ⟨r.offset + count, r.rest.drop count⟩

/-- One byte. -/
def byte : Read UInt8 := return .ofNat (ofBytes (← bytes 1))

/-- A number of two bytes. -/
def word16 : Read UInt16 := return .ofNat (ofBytes (← bytes 2))

/-- A number of four bytes. -/
def word32 : Read UInt32 := return .ofNat (ofBytes (← bytes 4))

/-- A signed number of four bytes. -/
def int32 : Read Int32 := return (← word32).toInt32

/-- The pattern of a single-precision number. -/
def single : Read Single := return ⟨← word32⟩

/-- The name of a variable. -/
def variableId : Read VariableId := return ⟨← word32⟩

/-- The name of a component. -/
def componentId : Read ComponentId := return ⟨← word32⟩

/-- The name of an action. -/
def actionId : Read ActionId := return ⟨← word32⟩

/-! ## Fields with a length -/

/-- A read that goes back to where it began if the field after the length prefix does not fit. -/
def resuming {α : Type} (read : Read α) : Read α := fun r =>
  match read r with
  | .error (.truncated offset needed) _ => .error (.truncated offset needed) r
  | result => result

/-- A text: the number of its bytes, then the bytes.  A failure reports on the bytes. -/
def text : Read String := do
  let (start, front) ← resuming do
    let length ← word32
    let start ← offset
    return (start, ← bytes length.toNat)
  match String.fromUTF8? ⟨front.toArray⟩ with
  | some text => return text
  | none => throw (.invalidOperand start "string is not valid utf-8")

/-- The four-byte numbers that bytes spell. -/
def words : List UInt8 → List UInt32
  | a :: b :: c :: d :: rest => .ofNat (ofBytes [a, b, c, d]) :: words rest
  | _ => []

/-- A list of names: their count, then the names.  A failure reports on the names. -/
def idList : Read (List UInt32) := resuming do
  let count ← word16
  return words (← bytes (4 * count.toNat))

/-! ## Codes -/

/-- A byte that stands for something.  One that stands for nothing is passed over. -/
def coded {α : Type} (ofCode? : UInt8 → Option α) (reason : String) : Read α := do
  let start ← offset
  match ofCode? (← byte) with
  | some value => return value
  | none => throw (.invalidOperand start reason)

end Read

end Panel.Wire
