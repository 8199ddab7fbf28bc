import Panel.Error
import Panel.Guarded.Access
import Panel.Wire.BigEndian

/-!
# Reading through a cursor

A cursor is a position in a buffer.  What is read at it is cut out of the buffer by its bounds, and
how much is left is found by subtraction, so that a read through a cursor that stands beyond its
buffer has no answer at all.  Otherwise it takes a value or fails, and in either case leaves a
cursor behind.

Offsets are counted from a base that may be any number of 64 bits.  They are sums of sizes, so that
above the last such number they are not offsets any more.

* `Guarded.slice` is the access that all others are made of;
* a field that does not fit behind its length prefix is undone by `Guarded.returning`.
-/

namespace Panel.Wire

/-- A position in a buffer. -/
structure Cursor where
  buffer : List UInt8
  position : Nat
  /-- What the offsets that failures report are counted from. -/
  base : UInt64
  /-- What becomes of an offset that is too large. -/
  overflow : Overflow
deriving DecidableEq, Repr

/-- A read through a cursor: no answer, or a value or failure with the cursor after it. -/
abbrev Guarded := ExceptT DecodeError (StateT Cursor Option)

namespace Guarded

/-! ## Stretches of the buffer -/

/-- The offset of the next byte. -/
def offset : Guarded Nat := do
  let c ← get
  c.overflow.sum? c.base.toNat c.position

/-- The number of bytes not yet read. -/
def remaining : Guarded Nat := do
  let c ← get
  difference? c.buffer.length c.position

/-- Whether every byte has been read. -/
def isEmpty : Guarded Bool := return (← remaining) = 0

/-- A number of bytes, or none of them if so many are not left. -/
def slice (count : Nat) : Guarded (List UInt8) := do
  let left ← remaining
  if left < count then
    throw (.truncated (← offset) (← difference? count left))
  let c ← get
  let found ← slice? c.buffer c.position (c.position + count)
  set { c with position := c.position + count }
  return found

/-- A number of bytes, copied to a place of that size. -/
def array (width : Nat) : Guarded (List UInt8) := do copy? width (← slice width)

/-- A read that puts the cursor somewhere else if it fails. -/
def returning {α : Type} (position : Nat) (read : Guarded α) : Guarded α :=
  tryCatch read fun error => do
    modify fun c => { c with position }
    throw error

/-! ## Numbers -/

/-- One byte, taken from its place. -/
def byte : Guarded UInt8 := do
  let found ← array 1
  found[0]?

/-- A number of two bytes. -/
def word16 : Guarded UInt16 := return .ofNat (ofBytes (← array 2))

/-- A number of four bytes. -/
def word32 : Guarded UInt32 := return .ofNat (ofBytes (← array 4))

/-- A signed number of four bytes. -/
def int32 : Guarded Int32 := return (← word32).toInt32

/-- The pattern of a single-precision number. -/
def single : Guarded Single := return ⟨← word32⟩

/-- The name of a variable. -/
def variableId : Guarded VariableId := return ⟨← word32⟩

/-- The name of a component. -/
def componentId : Guarded ComponentId := return ⟨← word32⟩

/-- The name of an action. -/
def actionId : Guarded ActionId := return ⟨← word32⟩

/-! ## Fields with a length -/

/-- A field behind its prefix.  If it fails then the cursor stands before both again. -/
def prefixed {α β : Type} (first : Guarded α) (field : α → Guarded β) : Guarded β := do
  let start := (← get).position
  let a ← first
  returning start (field a)

/-- A text: the number of its bytes, then the bytes.  A failure reports on the bytes. -/
def text : Guarded String := do
  let (first, found) ← prefixed word32 fun length => do
    return (← offset, ← slice length.toNat)
  match String.fromUTF8? ⟨found.toArray⟩ with
  | some text => return text
  | none => throw (.invalidOperand first "string is not valid utf-8")

/-- A number of four-byte numbers, one after the other. -/
def words : Nat → Guarded (List UInt32)
  | 0 => return []
  | count + 1 => return (← word32) :: (← words count)

/-- A number of four-byte numbers, or none of them if so many are not left. -/
def entries (count : Nat) : Guarded (List UInt32) := do
  let left ← remaining
  if left < count * 4 then
    throw (.truncated (← offset) (← difference? (count * 4) left))
  words count

/-- A list of names: their count, then the names.  A failure reports on the names. -/
def idList : Guarded (List UInt32) := prefixed word16 fun count => entries count.toNat

/-! ## Codes -/

/-- A byte that stands for something.  One that stands for nothing is passed over. -/
def coded {α : Type} (ofCode? : UInt8 → Option α) (reason : String) : Guarded α := do
  let start ← offset
  match ofCode? (← byte) with
  | some value => return value
  | none => throw (.invalidOperand start reason)

end Guarded

end Panel.Wire
