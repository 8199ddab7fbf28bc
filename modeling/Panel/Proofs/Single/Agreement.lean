import Mathlib
import Panel.Proofs.Single.Extent

/-!
# Numbers that agree

Arithmetic never tells one zero from the other, except by the sign of a zero that it comes to.  So
a computation of sums, differences and comparisons that is given numbers which agree but for the
sign of a zero comes to numbers that agree.  `Single.Congruence` says so of any relation between
numbers, and equality is another one.

A number times zero is a zero if it is finite, and no number if it is not.
-/

namespace Panel.Single

open Float.Model

/-- The same number, or no number in both places, but for the sign of a zero. -/
def Agrees (x y : Single) : Prop := x = y ∨ x.isZero = true ∧ y.isZero = true

instance (x y : Single) : Decidable (x.Agrees y) :=
  inferInstanceAs (Decidable (x = y ∨ x.isZero = true ∧ y.isZero = true))

/-- A relation between numbers that arithmetic and comparison keep. -/
structure Congruence (R : Single → Single → Prop) : Prop where
  refl : ∀ x, R x x
  add : ∀ {x x' y y'}, R x x' → R y y' → R (x + y) (x' + y')
  sub : ∀ {x x' y y'}, R x x' → R y y' → R (x - y) (x' - y')
  /-- The divisor stays: the two zeros divide into infinities of their own. -/
  div : ∀ {x x'} y, R x x' → R (x / y) (x' / y)
  isNaN : ∀ {x x'}, R x x' → x'.isNaN = x.isNaN
  lt : ∀ {x x' y y'}, R x x' → R y y' → x'.lt y' = x.lt y

theorem congruence_eq : Congruence Eq where
  refl _ := rfl
  add := by
    rintro _ _ _ _ rfl rfl
    rfl
  sub := by
    rintro _ _ _ _ rfl rfl
    rfl
  div := by
    rintro _ _ _ rfl
    rfl
  isNaN := by
    rintro _ _ rfl
    rfl
  lt := by
    rintro _ _ _ _ rfl rfl
    rfl

namespace Congruence

variable {R : Single → Single → Prop} {x x' y y' : Single} {xs xs' : List Single}

theorem extent (hR : Congruence R) (h : R x x') : R x.extent x'.extent := by
  rw [Single.extent, Single.extent, hR.isNaN h, hR.lt h (hR.refl .zero)]
  split
  · exact hR.refl .zero
  · exact h

theorem min (hR : Congruence R) (hx : R x x') (hy : R y y') : R (x.min y) (x'.min y') := by
  rw [Single.min, Single.min, hR.isNaN hx, hR.lt hy hx]
  split
  · exact hy
  · split
    · exact hy
    · exact hx

theorem max (hR : Congruence R) (hx : R x x') (hy : R y y') : R (x.max y) (x'.max y') := by
  rw [Single.max, Single.max, hR.isNaN hx, hR.lt hx hy]
  split
  · exact hy
  · split
    · exact hy
    · exact hx

theorem clampNegative (hR : Congruence R) (h : R x x') : R x.clampNegative x'.clampNegative := by
  rw [Single.clampNegative, Single.clampNegative, hR.lt (hR.refl .zero) h]
  split
  · exact h
  · exact hR.refl .zero

theorem foldl {f : Single → Single → Single}
    (hf : ∀ {x x' y y'}, R x x' → R y y' → R (f x y) (f x' y')) (h : List.Forall₂ R xs xs')
    (hx : R x x') : R (xs.foldl f x) (xs'.foldl f x') := by
  induction h generalizing x x' with
  | nil => exact hx
  | cons hy _ ih => exact ih (hf hx hy)

end Congruence

/-! ## Patterns taken apart -/

/-- Positive infinity. -/
def infinity : Single := ⟨0x7F800000⟩

/-- The parts of a pattern. -/
def unpacked (x : Single) : UnpackedFloat := x.toFloat32.toModel.unpack

/-- The pattern with some parts. -/
def packed (u : UnpackedFloat) : Single := ⟨⟨u.pack .binary32⟩⟩

theorem add_eq (x y : Single) : x + y = packed (x.unpacked.add .binary32 y.unpacked) := rfl

theorem sub_eq (x y : Single) : x - y = packed (x.unpacked.sub .binary32 y.unpacked) := rfl

theorem mul_eq (x y : Single) : x * y = packed (x.unpacked.mul .binary32 y.unpacked) := rfl

theorem div_eq (x y : Single) : x / y = packed (x.unpacked.div .binary32 y.unpacked) := rfl

theorem unpacked_eq (x : Single) : x.unpacked = .unpack .binary32 x.bits.toBitVec := by
  show UnpackedFloat.unpack .binary32
    (UnpackedFloat.pack .binary32 (.unpack .binary32 x.bits.toBitVec)) = _
  rw [UnpackedFloat.pack_unpack]
  split
  · next hnan =>
      rw [UnpackedFloat.isNaNBits, decide_eq_true_iff] at hnan
      rw [UnpackedFloat.unpack_packedNaN, UnpackedFloat.unpack]
      simp [hnan]
  · rfl

theorem unpacked_zero : unpacked zero = .zero .positive := rfl

theorem unpacked_negZero : unpacked negZero = .zero .negative := rfl

theorem packed_zero : packed (.zero .positive) = zero := by decide

theorem eq_mk_iff {x : Single} {b : UInt32} : x = ⟨b⟩ ↔ x.bits.toNat = b.toNat := by
  obtain ⟨a⟩ := x
  rw [Single.mk.injEq, UInt32.toNat_inj]

theorem isZero_iff (x : Single) : x.isZero = true ↔ x = zero ∨ x = negZero := by
  have hlt := x.bits.toNat_lt
  rw [zero, negZero, eq_mk_iff, eq_mk_iff, isZero, magnitude, decide_eq_true_iff]
  simp only [UInt32.reduceToNat]
  omega

theorem exists_unpacked_of_isZero {x : Single} (h : x.isZero = true) :
    ∃ sign, x.unpacked = .zero sign := by
  rcases x.isZero_iff.1 h with rfl | rfl
  · exact ⟨_, unpacked_zero⟩
  · exact ⟨_, unpacked_negZero⟩

theorem isZero_packed_zero (sign : UnpackedFloat.Sign) : (packed (.zero sign)).isZero = true := by
  cases sign <;> decide

/-! ## Agreement -/

/-- The same parts, but for the sign of a zero. -/
def PartsAgree (u v : UnpackedFloat) : Prop := u = v ∨ (∃ s, u = .zero s) ∧ ∃ s, v = .zero s

variable {x x' y y' : Single} {u u' v v' : UnpackedFloat}

theorem Agrees.unpacked (h : x.Agrees x') : PartsAgree x.unpacked x'.unpacked := by
  rcases h with rfl | ⟨hx, hx'⟩
  · exact .inl rfl
  · exact .inr ⟨exists_unpacked_of_isZero hx, exists_unpacked_of_isZero hx'⟩

theorem PartsAgree.packed (h : PartsAgree u v) : (packed u).Agrees (packed v) := by
  rcases h with rfl | ⟨⟨s, rfl⟩, t, rfl⟩
  · exact .inl rfl
  · exact .inr ⟨isZero_packed_zero s, isZero_packed_zero t⟩

/-- An operation that makes a zero of two zeros, and that does not tell one zero from the other
beside anything else. -/
structure BlindToZeros (op : UnpackedFloat → UnpackedFloat → UnpackedFloat) : Prop where
  zeros : ∀ s t, ∃ r, op (.zero s) (.zero t) = .zero r
  right : ∀ u, (∀ r, u ≠ .zero r) → ∀ t t', op u (.zero t) = op u (.zero t')
  left : ∀ v, (∀ r, v ≠ .zero r) → ∀ s s', op (.zero s) v = op (.zero s') v

theorem blindToZeros_add : BlindToZeros (UnpackedFloat.add .binary32) where
  zeros s t := by cases s <;> cases t <;> exact ⟨_, rfl⟩
  right u hu t t' := by
    cases u with
    | zero r => exact absurd rfl (hu r)
    | _ => rfl
  left v hv s s' := by
    cases v with
    | zero r => exact absurd rfl (hv r)
    | _ => rfl

theorem blindToZeros_sub : BlindToZeros (UnpackedFloat.sub .binary32) where
  zeros s t := by cases s <;> cases t <;> exact ⟨_, rfl⟩
  right u hu t t' := by
    cases u with
    | zero r => exact absurd rfl (hu r)
    | _ => rfl
  left v hv s s' := by
    cases v with
    | zero r => exact absurd rfl (hv r)
    | _ => rfl

theorem BlindToZeros.partsAgree {op : UnpackedFloat → UnpackedFloat → UnpackedFloat}
    (h : BlindToZeros op) (hu : PartsAgree u u') (hv : PartsAgree v v') :
    PartsAgree (op u v) (op u' v') := by
  rcases hu with rfl | ⟨⟨s, rfl⟩, s', rfl⟩ <;> rcases hv with rfl | ⟨⟨t, rfl⟩, t', rfl⟩
  · exact .inl rfl
  · by_cases hu : ∃ r, u = .zero r
    · obtain ⟨r, rfl⟩ := hu
      exact .inr ⟨h.zeros r t, h.zeros r t'⟩
    · exact .inl (h.right u (not_exists.1 hu) t t')
  · by_cases hv : ∃ r, v = .zero r
    · obtain ⟨r, rfl⟩ := hv
      exact .inr ⟨h.zeros s r, h.zeros s' r⟩
    · exact .inl (h.left v (not_exists.1 hv) s s')
  · exact .inr ⟨h.zeros s t, h.zeros s' t'⟩

/-- A quotient is a zero if the dividend is and the divisor is not, whichever zero that is. -/
theorem PartsAgree.div (hu : PartsAgree u u') (v : UnpackedFloat) :
    PartsAgree (u.div .binary32 v) (u'.div .binary32 v) := by
  rcases hu with rfl | ⟨⟨s, rfl⟩, s', rfl⟩
  · exact .inl rfl
  · cases v with
    | notANumber => exact .inl rfl
    | zero r => exact .inl rfl
    | infinity r => exact .inr ⟨⟨_, rfl⟩, _, rfl⟩
    | finite r m e h => exact .inr ⟨⟨_, rfl⟩, _, rfl⟩

theorem isNaN_of_isZero (h : x.isZero = true) : x.isNaN = false := by
  rcases x.isZero_iff.1 h with rfl | rfl <;> decide

theorem key_of_isZero (h : x.isZero = true) : x.key = 0 := by
  rcases x.isZero_iff.1 h with rfl | rfl <;> decide

theorem Agrees.isNaN_eq (h : x.Agrees x') : x'.isNaN = x.isNaN := by
  rcases h with rfl | ⟨hx, hx'⟩
  · rfl
  · rw [isNaN_of_isZero hx, isNaN_of_isZero hx']

theorem Agrees.key_eq (h : x.Agrees x') : x'.key = x.key := by
  rcases h with rfl | ⟨hx, hx'⟩
  · rfl
  · rw [key_of_isZero hx, key_of_isZero hx']

theorem congruence_agrees : Congruence Agrees where
  refl _ := .inl rfl
  add hx hy := by
    rw [add_eq, add_eq]
    exact (blindToZeros_add.partsAgree hx.unpacked hy.unpacked).packed
  sub hx hy := by
    rw [sub_eq, sub_eq]
    exact (blindToZeros_sub.partsAgree hx.unpacked hy.unpacked).packed
  div y hx := by
    rw [div_eq, div_eq]
    exact (hx.unpacked.div y.unpacked).packed
  isNaN hx := hx.isNaN_eq
  lt hx hy := by rw [lt, lt, hx.isNaN_eq, hy.isNaN_eq, hx.key_eq, hy.key_eq]

/-! ## Times zero -/

theorem IsExtent.toNat_bits_lt (h : x.IsExtent) (hfinite : x ≠ infinity) (hzero : x ≠ negZero) :
    x.bits.toNat < 0x7F800000 := by
  obtain ⟨hnumber, hlt⟩ := h
  rw [Single.lt, hnumber, isExtent_zero.isNaN] at hlt
  rw [ne_eq, eq_mk_iff] at hfinite hzero
  rw [Single.isNaN, magnitude, decide_eq_false_iff_not] at hnumber
  simp only [Bool.not_false, Bool.true_and, decide_eq_false_iff_not, key, isNegative, magnitude,
    decide_eq_true_iff, zero, UInt32.toNat_zero, Nat.zero_mod] at hlt
  have hbound := x.bits.toNat_lt
  have hinfinity : infinity.bits.toNat = 0x7F800000 := rfl
  have hnegZero : negZero.bits.toNat = 0x80000000 := rfl
  split at hlt <;> omega

/-- Neither the exponent nor the sign of such an extent makes anything of a zero but that zero. -/
theorem IsExtent.unpacked_mul_zero (h : x.IsExtent) (hfinite : x ≠ infinity)
    (hzero : x ≠ negZero) :
    x.unpacked.mul .binary32 (.zero .positive) = .zero .positive := by
  have hlt := h.toNat_bits_lt hfinite hzero
  -- bits below the sign and above the fraction are those of a number less than infinity
  have hexponent : @UnpackedFloat.unpackExponent .binary32 x.bits.toBitVec ≠ -1#8 := by
    rw [UnpackedFloat.unpackExponent_def, ne_eq, ← BitVec.toNat_inj, BitVec.extractLsb'_toNat,
      Nat.shiftRight_eq_div_pow]
    simp only [UInt32.toNat_toBitVec, Nat.reducePow, BitVec.reduceNeg, BitVec.toNat_ofNat,
      Nat.mod_succ]
    omega
  have hsign : @UnpackedFloat.unpackSign .binary32 x.bits.toBitVec = 0#1 := by
    rw [UnpackedFloat.unpackSign_def, ← BitVec.toNat_inj, BitVec.extractLsb'_toNat,
      Nat.shiftRight_eq_div_pow]
    simp only [UInt32.toNat_toBitVec, Nat.reduceAdd, Nat.reducePow, pow_one, BitVec.toNat_ofNat,
      Nat.zero_mod]
    omega
  rw [unpacked_eq, UnpackedFloat.unpack, if_neg hexponent, hsign]
  split
  · split <;> rfl
  · rfl

/-- An extent that is not infinite, times zero, is zero. -/
theorem IsExtent.mul_zero (h : x.IsExtent) (hfinite : x ≠ infinity) :
    x * zero = if x = negZero then negZero else zero := by
  split
  · next hx =>
      subst hx
      decide
  · next hx => rw [mul_eq, unpacked_zero, h.unpacked_mul_zero hfinite hx, packed_zero]

end Panel.Single
