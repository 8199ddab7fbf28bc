/-!
# Big-endian numbers

Numbers of a fixed width as bytes, the most significant byte first.

* `ofBytes_toBytes`: a number that fits its width is read back;
* `toBytes_ofBytes`: any bytes are the ones that their number is written as.
-/

namespace Panel.Wire

/-- The number that bytes spell. -/
def ofBytes (bytes : List UInt8) : Nat := bytes.foldl (fun n b => n * 256 + b.toNat) 0

/-- The last `width` bytes of a number. -/
def toBytes : Nat → Nat → List UInt8
  | 0, _ => []
  | width + 1, n => toBytes width (n / 256) ++ [UInt8.ofNat n]

/-- The number of values that a number of bytes can take. -/
def capacity : Nat → Nat
  | 0 => 1
  | width + 1 => capacity width * 256

@[simp] theorem length_toBytes (width n : Nat) : (toBytes width n).length = width := by
  induction width generalizing n with
  | zero => rfl
  | succ width ih => simp [toBytes, ih]

@[simp] theorem ofBytes_append_singleton (bytes : List UInt8) (b : UInt8) :
    ofBytes (bytes ++ [b]) = ofBytes bytes * 256 + b.toNat := by
  simp [ofBytes]

/-- A number that fits its width is read back. -/
theorem ofBytes_toBytes {width n : Nat} (fits : n < capacity width) :
    ofBytes (toBytes width n) = n := by
  induction width generalizing n with
  | zero =>
    have : n = 0 := Nat.lt_one_iff.1 fits
    simp [toBytes, ofBytes, this]
  | succ width ih =>
    have upper : n / 256 < capacity width := (Nat.div_lt_iff_lt_mul (by omega)).2 fits
    rw [toBytes, ofBytes_append_singleton, ih upper, UInt8.toNat_ofNat']
    omega

/-- Any bytes are the ones that their number is written as. -/
theorem toBytes_ofBytes {bytes : List UInt8} {width : Nat} (length : bytes.length = width) :
    toBytes width (ofBytes bytes) = bytes := by
  induction width generalizing bytes with
  | zero => simp [List.eq_nil_of_length_eq_zero length, toBytes]
  | succ width ih =>
    obtain rfl | ⟨front, b, rfl⟩ := List.eq_nil_or_concat bytes
    · simp at length
    · have low : b.toNat < 256 := b.toNat_lt
      have upper : (ofBytes front * 256 + b.toNat) / 256 = ofBytes front := by omega
      have last : UInt8.ofNat (ofBytes front * 256 + b.toNat) = b := by
        apply UInt8.toNat_inj.1
        rw [UInt8.toNat_ofNat']
        omega
      rw [List.concat_eq_append, ofBytes_append_singleton, toBytes, upper, last,
        ih (by simpa using length)]

end Panel.Wire
