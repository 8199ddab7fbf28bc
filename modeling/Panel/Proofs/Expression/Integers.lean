import Mathlib.Algebra.Order.Ring.Int
import Panel.Proofs.Derived.Reading

/-!
# Integer expressions

An expression with integers only stays with integers.  Its value is what the same operators give
over the integers of any size when the result of each of them is reduced to 32 bits.  Where there
are only sums, differences, products and signs, one reduction at the end gives the same.
-/

namespace Panel

/-! ## Operators over the integers -/

namespace BinaryOp

/-- The operator over the integers.  A quotient is truncated toward zero, and the remainder is what
that leaves; both are zero if the divisor is.  Comparisons and logic answer one or zero. -/
def exact : BinaryOp → Int → Int → Int
  | add, a, b => a + b
  | sub, a, b => a - b
  | mul, a, b => a * b
  | div, a, b => if b = 0 then 0 else a.tdiv b
  | rem, a, b => if b = 0 then 0 else a.tmod b
  | min, a, b => Min.min a b
  | max, a, b => Max.max a b
  | eq, a, b => if a = b then 1 else 0
  | ne, a, b => if a ≠ b then 1 else 0
  | lt, a, b => if a < b then 1 else 0
  | le, a, b => if a ≤ b then 1 else 0
  | gt, a, b => if b < a then 1 else 0
  | ge, a, b => if b ≤ a then 1 else 0
  | and, a, b => if a ≠ 0 ∧ b ≠ 0 then 1 else 0
  | or, a, b => if a ≠ 0 ∨ b ≠ 0 then 1 else 0

/-- The quotient of the lowest integer and minus one does not fit. -/
example : (exact .div (-2 ^ 31) (-1)).bmod (2 ^ 32) = -2 ^ 31 ∧
    (exact .rem (-2 ^ 31) (-1)).bmod (2 ^ 32) = 0 := by decide

/-- Whether the operator gives the same modulo `2 ^ 32` for operands that are the same modulo
`2 ^ 32`. -/
def isRing : BinaryOp → Bool
  | add => true
  | sub => true
  | mul => true
  | _ => false

end BinaryOp

namespace UnaryOp

/-- The operator over the integers. -/
def exact : UnaryOp → Int → Int
  | neg, a => -a
  | abs, a => |a|
  | not, a => if a = 0 then 1 else 0
  | toInt, a => a
  | toFloat, a => a

end UnaryOp

namespace Expression

/-- The value of an expression over the integers, where the result of each operator is reduced in
some way. -/
def integerValue (reduce : Int → Int) (values : VariableId → Int) : Expression → Int
  | constant value => value.toInt32.toInt
  | reference id => values id
  | binary op lhs rhs =>
    reduce (op.exact (lhs.integerValue reduce values) (rhs.integerValue reduce values))
  | unary op operand => reduce (op.exact (operand.integerValue reduce values))

/-- Whether an expression brings in nothing but integers of its own. -/
def isInteger : Expression → Bool
  | constant value => !value.isFloat
  | reference _ => true
  | binary _ lhs rhs => lhs.isInteger && rhs.isInteger
  | unary op operand => op ≠ .toFloat && operand.isInteger

/-- Whether an expression has no operators but sums, differences, products and negation. -/
def isPolynomial : Expression → Bool
  | constant _ => true
  | reference _ => true
  | binary op lhs rhs => op.isRing && lhs.isPolynomial && rhs.isPolynomial
  | unary op operand => op = .neg && operand.isPolynomial

end Expression

/-! ## Operators on words -/

theorem Int32.bmod_toInt (v : Int32) : v.toInt.bmod (2 ^ 32) = v.toInt := v.toInt_bmod

/-- A word with some integer value, as a reduction of that integer. -/
theorem Int32.toInt_eq_bmod {v : Int32} {n : Int} (h : v.toInt = n) :
    v.toInt = n.bmod (2 ^ 32) := by
  rw [← h, bmod_toInt]

theorem Int32.eq_zero_iff {v : Int32} : v = 0 ↔ v.toInt = 0 := by
  rw [← Int32.toInt_inj, Int32.toInt_zero]

/-- The word with the value of an operation over the integers, reduced. -/
def Scalar.Reduces (result : Scalar) (n : Int) : Prop :=
  ∃ v : Int32, result = .int v ∧ v.toInt = n.bmod (2 ^ 32)

theorem Scalar.reduces_ofBool {p : Prop} [Decidable p] {b : Bool} (h : b = true ↔ p) :
    (Scalar.ofBool b).Reduces (if p then 1 else 0) := by
  refine ⟨_, rfl, Int32.toInt_eq_bmod ?_⟩
  by_cases hp : p
  · rw [if_pos hp, h.2 hp]
    rfl
  · rw [if_neg hp, Bool.eq_false_iff.2 (mt h.1 hp)]
    rfl

theorem BinaryOp.reduces_onInts (op : BinaryOp) (a b : Int32) :
    (op.onInts a b).Reduces (op.exact a.toInt b.toInt) := by
  cases op with
  | add => exact ⟨_, rfl, Int32.toInt_add a b⟩
  | sub => exact ⟨_, rfl, Int32.toInt_sub a b⟩
  | mul => exact ⟨_, rfl, Int32.toInt_mul a b⟩
  | div =>
      refine ⟨_, rfl, ?_⟩
      by_cases hb : b = 0
      · rw [exact, if_pos hb, if_pos (Int32.eq_zero_iff.1 hb)]
        rfl
      · rw [exact, if_neg hb, if_neg (mt Int32.eq_zero_iff.2 hb), Int32.toInt_div]
  | rem =>
      refine ⟨_, rfl, Int32.toInt_eq_bmod ?_⟩
      by_cases hb : b = 0
      · rw [exact, if_pos hb, if_pos (Int32.eq_zero_iff.1 hb)]
        rfl
      · rw [exact, if_neg hb, if_neg (mt Int32.eq_zero_iff.2 hb), Int32.toInt_mod]
  | min =>
      refine ⟨_, rfl, Int32.toInt_eq_bmod ?_⟩
      rw [exact, apply_ite Int32.toInt, Int.min_def]
      split <;> split <;> simp only [Int32.lt_iff_toInt_lt] at * <;> omega
  | max =>
      refine ⟨_, rfl, Int32.toInt_eq_bmod ?_⟩
      rw [exact, apply_ite Int32.toInt, Int.max_def]
      split <;> split <;> simp only [Int32.lt_iff_toInt_lt] at * <;> omega
  | eq => exact Scalar.reduces_ofBool (by rw [decide_eq_true_iff, Int32.toInt_inj])
  | ne => exact Scalar.reduces_ofBool (by rw [decide_eq_true_iff, Ne, Ne, Int32.toInt_inj])
  | lt => exact Scalar.reduces_ofBool (by rw [decide_eq_true_iff, Int32.lt_iff_toInt_lt])
  | le => exact Scalar.reduces_ofBool (by rw [decide_eq_true_iff, Int32.le_iff_toInt_le])
  | gt => exact Scalar.reduces_ofBool (by rw [decide_eq_true_iff, Int32.lt_iff_toInt_lt])
  | ge => exact Scalar.reduces_ofBool (by rw [decide_eq_true_iff, Int32.le_iff_toInt_le])
  | and => exact Scalar.reduces_ofBool (by simp [Int32.eq_zero_iff])
  | or => exact Scalar.reduces_ofBool (by simp [Int32.eq_zero_iff])

theorem UnaryOp.reduces_apply {op : UnaryOp} (hop : op ≠ .toFloat) (a : Int32) :
    (op.apply (.int a)).Reduces (op.exact a.toInt) := by
  cases op with
  | neg => exact ⟨_, rfl, Int32.toInt_neg a⟩
  | abs =>
      refine ⟨_, rfl, ?_⟩
      by_cases ha : a < 0
      · have hneg : a.toInt < 0 := Int32.lt_iff_toInt_lt.1 ha
        rw [if_pos ha, Int32.toInt_neg, exact, abs_of_neg hneg]
      · have hnonneg : ¬ a.toInt < 0 := fun h => ha (Int32.lt_iff_toInt_lt.2 h)
        rw [if_neg ha, exact, abs_of_nonneg (not_lt.1 hnonneg), Int32.bmod_toInt]
  | not => exact Scalar.reduces_ofBool (by simp [Scalar.isTruthy, Int32.eq_zero_iff])
  | toInt => exact ⟨a, rfl, (Int32.bmod_toInt a).symm⟩
  | toFloat => exact absurd rfl hop

/-- The operators of a ring do not care whether their operands are reduced. -/
theorem BinaryOp.bmod_exact {op : BinaryOp} (hop : op.isRing = true) (a b : Int) (n : Nat) :
    (op.exact (a.bmod n) (b.bmod n)).bmod n = (op.exact a b).bmod n := by
  cases op with
  | add => simp only [exact, Int.bmod_add_bmod, Int.add_bmod_bmod]
  | sub => simp only [exact, Int.bmod_sub_bmod, Int.sub_bmod_bmod]
  | mul => simp only [exact, Int.bmod_mul_bmod, Int.mul_bmod_bmod]
  | _ => contradiction

/-! ## Expressions -/

namespace Expression

variable {s : Store} {e : Expression} {values : VariableId → Int32}

/-- Each operator finds integers and leaves one. -/
theorem evaluate_of_isInteger (he : e.isInteger = true)
    (hvalues : ∀ id ∈ e.reads, s.get id = .ok (.int (values id))) :
    ∃ v : Int32, e.evaluate s = .ok (.int v) ∧
      v.toInt = e.integerValue (·.bmod (2 ^ 32)) fun id => (values id).toInt := by
  induction e with
  | constant value =>
      cases value with
      | int v => exact ⟨v, rfl, rfl⟩
      | float v => contradiction
  | reference id =>
      have hget := hvalues id (by simp [reads, visit, VariableId.addTo])
      refine ⟨values id, ?_, rfl⟩
      rw [evaluate, Store.getScalar, hget]
      rfl
  | binary op lhs rhs ihl ihr =>
      rw [isInteger, Bool.and_eq_true] at he
      obtain ⟨a, hlhs, ha⟩ := ihl he.1 fun id hid => hvalues id (mem_reads_binary.2 (.inl hid))
      obtain ⟨b, hrhs, hb⟩ := ihr he.2 fun id hid => hvalues id (mem_reads_binary.2 (.inr hid))
      obtain ⟨v, hv, hreduced⟩ := op.reduces_onInts a b
      rw [ha, hb] at hreduced
      refine ⟨v, ?_, hreduced⟩
      rw [evaluate, hlhs, hrhs, ← hv]
      rfl
  | unary op operand ih =>
      rw [isInteger, Bool.and_eq_true, decide_eq_true_iff] at he
      obtain ⟨a, hoperand, ha⟩ := ih he.2 hvalues
      obtain ⟨v, hv, hreduced⟩ := UnaryOp.reduces_apply he.1 a
      rw [ha] at hreduced
      refine ⟨v, ?_, hreduced⟩
      rw [evaluate, hoperand, ← hv]
      rfl

/-- Reducing once at the end is enough for sums, differences, products and negation. -/
theorem integerValue_of_isPolynomial {values : VariableId → Int} (he : e.isPolynomial = true)
    (hvalues : ∀ id, (values id).bmod (2 ^ 32) = values id) :
    e.integerValue (·.bmod (2 ^ 32)) values = (e.integerValue id values).bmod (2 ^ 32) := by
  induction e with
  | constant value => exact (Int32.bmod_toInt value.toInt32).symm
  | reference id => exact (hvalues id).symm
  | binary op lhs rhs ihl ihr =>
      rw [isPolynomial, Bool.and_eq_true, Bool.and_eq_true] at he
      obtain ⟨⟨hop, hlhs⟩, hrhs⟩ := he
      rw [integerValue, integerValue, ihl hlhs, ihr hrhs, BinaryOp.bmod_exact hop, id_eq]
  | unary op operand ih =>
      rw [isPolynomial, Bool.and_eq_true, decide_eq_true_iff] at he
      obtain ⟨rfl, hoperand⟩ := he
      rw [integerValue, integerValue, ih hoperand, UnaryOp.exact, Int.bmod_neg_bmod]
      rfl

/-- An expression with integer constants and without `toFloat`, all of whose variables hold
integers, evaluates to the integer that its operators give over the integers of any size, each
result reduced to 32 bits.  If it has no operators but sums, differences, products and negation,
that is the exact value of the whole expression, reduced once. -/
theorem evaluate_integers (he : e.isInteger = true)
    (hvalues : ∀ id ∈ e.reads, s.get id = .ok (.int (values id))) :
    ∃ v : Int32, e.evaluate s = .ok (.int v) ∧
      v.toInt = e.integerValue (·.bmod (2 ^ 32)) (fun id => (values id).toInt) ∧
      (e.isPolynomial = true →
        v.toInt = (e.integerValue id fun id => (values id).toInt).bmod (2 ^ 32)) := by
  obtain ⟨v, hv, hvalue⟩ := evaluate_of_isInteger he hvalues
  refine ⟨v, hv, hvalue, fun hpolynomial => ?_⟩
  rw [hvalue]
  exact integerValue_of_isPolynomial hpolynomial fun id => Int32.bmod_toInt (values id)

/-- The lowest integer divided by minus one, and a remainder by zero; then a product that goes out
of the range after a difference has. -/
theorem evaluate_integers_lowest :
    let s : Store := ⟨[⟨⟨1⟩, .int (-2 ^ 31), false⟩], [], 2⟩
    let quotient : Expression := .binary .add
      (.binary .div (.reference ⟨1⟩) (.constant (.int (-1))))
      (.binary .rem (.constant (.int 7)) (.constant (.int 0)))
    let product : Expression := .binary .mul
      (.binary .sub (.reference ⟨1⟩) (.constant (.int 1))) (.unary .neg (.constant (.int (-3))))
    quotient.evaluate s = .ok (.int (-2 ^ 31)) ∧
      ∃ v : Int32, product.evaluate s = .ok (.int v) ∧
        v.toInt = (((-2 ^ 31) - 1) * 3 : Int).bmod (2 ^ 32) := by
  intro s quotient product
  let held : VariableId → Int32 := fun _ => -2 ^ 31
  have hvalues (id : VariableId) (hid : id = ⟨1⟩) : s.get id = .ok (.int (held id)) := by
    rw [hid]
    rfl
  have hquotient : ∀ id ∈ quotient.reads, id = ⟨1⟩ := by decide
  have hproduct : ∀ id ∈ product.reads, id = ⟨1⟩ := by decide
  have hreads : ∀ id ∈ quotient.reads, s.get id = .ok (.int (held id)) :=
    fun id hid => hvalues id (hquotient id hid)
  have hreads' : ∀ id ∈ product.reads, s.get id = .ok (.int (held id)) :=
    fun id hid => hvalues id (hproduct id hid)
  obtain ⟨v, hv, hvalue, -⟩ := evaluate_integers rfl hreads
  obtain ⟨w, hw, -, hexact⟩ := evaluate_integers rfl hreads'
  have hlowest : v = -2 ^ 31 := by
    rw [← Int32.toInt_inj, hvalue]
    decide
  exact ⟨hlowest ▸ hv, w, hw, hexact rfl⟩

end Expression

end Panel
