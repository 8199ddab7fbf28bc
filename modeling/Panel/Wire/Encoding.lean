import Panel.Error
import Panel.Wire.BigEndian

/-!
# Writing bytes

An `Encoding` is what came of writing: the bytes, and the failure that ended them, if one did.
Encodings are put together with `++`; nothing is written after a failure.
-/

namespace Panel.Wire

/-- Bytes, with the failure that ended them. -/
structure Encoding where
  bytes : List UInt8
  failure : Option EncodeError
deriving DecidableEq, Repr

namespace Encoding

/-- Bytes that can be written. -/
def ofBytes (bytes : List UInt8) : Encoding := ⟨bytes, none⟩

/-- A failure before anything is written. -/
def fail (error : EncodeError) : Encoding := ⟨[], some error⟩

/-- Nothing. -/
def empty : Encoding := ofBytes []

/-- One encoding after another; the second is lost if the first fails. -/
def append (e f : Encoding) : Encoding :=
  match e.failure with
  | some _ => e
  | none => ⟨e.bytes ++ f.bytes, f.failure⟩

instance : Append Encoding := ⟨append⟩

/-- Encodings one after the other, up to the first failure. -/
def concat : List Encoding → Encoding
  | [] => empty
  | e :: rest => e ++ concat rest

/-- The bytes, if nothing failed. -/
def toExcept (e : Encoding) : Except EncodeError (List UInt8) :=
  match e.failure with
  | some error => .error error
  | none => .ok e.bytes

/-! ## Laws -/

@[simp] theorem ofBytes_append (bytes : List UInt8) (e : Encoding) :
    ofBytes bytes ++ e = ⟨bytes ++ e.bytes, e.failure⟩ := rfl

@[simp] theorem empty_append (e : Encoding) : empty ++ e = e := rfl

@[simp] theorem append_empty (e : Encoding) : e ++ empty = e := by
  obtain ⟨bytes, _ | error⟩ := e
  · show (⟨bytes ++ [], none⟩ : Encoding) = ⟨bytes, none⟩
    rw [List.append_nil]
  · rfl

theorem append_assoc (e f g : Encoding) : e ++ f ++ g = e ++ (f ++ g) := by
  obtain ⟨bytes, _ | error⟩ := e
  · obtain ⟨more, _ | error⟩ := f
    · show (⟨bytes ++ more ++ g.bytes, g.failure⟩ : Encoding) =
        ⟨bytes ++ (more ++ g.bytes), g.failure⟩
      rw [List.append_assoc]
    · rfl
  · rfl

/-! ## Numbers -/

/-- One byte. -/
def byte (b : UInt8) : Encoding := ofBytes [b]

/-- A number of two bytes. -/
def word16 (n : UInt16) : Encoding := ofBytes (toBytes 2 n.toNat)

/-- A number of four bytes. -/
def word32 (n : UInt32) : Encoding := ofBytes (toBytes 4 n.toNat)

/-- A signed number of four bytes. -/
def int32 (i : Int32) : Encoding := word32 i.toUInt32

/-- The pattern of a single-precision number. -/
def single (x : Single) : Encoding := word32 x.bits

/-- The name of a variable. -/
def variableId (id : VariableId) : Encoding := word32 id.number

/-- The name of a component. -/
def componentId (id : ComponentId) : Encoding := word32 id.number

/-- The name of an action. -/
def actionId (id : ActionId) : Encoding := word32 id.number

/-! ## Fields with a length -/

/-- A text: the number of its bytes, then the bytes. -/
def text (s : String) : Encoding :=
  if s.utf8ByteSize < capacity 4 then
    word32 (.ofNat s.utf8ByteSize) ++ ofBytes s.toUTF8.data.toList
  else
    fail (.tooLarge s.utf8ByteSize)

/-- A list of names: their count, then the names.  A failure says what the list was for. -/
def idList (what : String) (ids : List UInt32) : Encoding :=
  if ids.length < capacity 2 then
    word16 (.ofNat ids.length) ++ ofBytes (ids.flatMap fun id => toBytes 4 id.toNat)
  else
    fail (.tooManyEntries what ids.length)

end Encoding

end Panel.Wire
