import Panel.Wire.Encoding

/-!
# Document headers

Eight bytes in front of the operations of a document: the level it was written for, the number of
its profile and the number of bytes that follow.
-/

namespace Panel.Wire

/-- The header of a document. -/
structure Header where
  apiLevel : UInt16
  profileId : UInt16
  /-- The number of bytes after the header. -/
  length : UInt32
deriving DecidableEq, Repr

namespace Header

/-- The number of bytes of a header. -/
def size : Nat := 8

/-- A header as bytes. -/
def bytes (h : Header) : List UInt8 :=
  toBytes 2 h.apiLevel.toNat ++ toBytes 2 h.profileId.toNat ++ toBytes 4 h.length.toNat

/-- The header at the front of a buffer, with what follows it. -/
def read : List UInt8 → Except DecodeError (Header × List UInt8)
  | a :: b :: c :: d :: e :: f :: g :: h :: rest =>
    .ok (⟨.ofNat (ofBytes [a, b]), .ofNat (ofBytes [c, d]), .ofNat (ofBytes [e, f, g, h])⟩, rest)
  | short => .error (.missingHeader short.length)

@[simp] theorem length_bytes (h : Header) : h.bytes.length = size := by
  simp [bytes, size]

/-- Reading the bytes of a header gives the header back. -/
theorem read_bytes (h : Header) (rest : List UInt8) : read (h.bytes ++ rest) = .ok (h, rest) := by
  have level := @ofBytes_toBytes 2 h.apiLevel.toNat h.apiLevel.toNat_lt
  have profile := @ofBytes_toBytes 2 h.profileId.toNat h.profileId.toNat_lt
  have length := @ofBytes_toBytes 4 h.length.toNat h.length.toNat_lt
  simp only [toBytes, List.nil_append, List.cons_append] at level profile length
  simp only [bytes, read, toBytes, List.nil_append, List.cons_append, level, profile, length,
    UInt16.ofNat_toNat, UInt32.ofNat_toNat]

end Header

end Panel.Wire
