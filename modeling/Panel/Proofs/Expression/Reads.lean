import Panel.Proofs.Derived.Reading

/-!
# Where evaluation fails

Evaluation reads the variables of an expression where they stand, some of them more than once, and
stops at the first that is not a scalar.  `reads` lists each variable once, in the order of first
visit.  The two orders blame the same variable: a variable that is read again was read before, and
evaluation has gone on.
-/

namespace Panel

/-! ## One variable -/

namespace Store

variable {s : Store} {id : VariableId}

/-- The reason for which a variable cannot be read as a scalar, if there is one. -/
def refusal? (s : Store) (id : VariableId) : Option StoreError :=
  Result.error? (s.getScalar id)

theorem refusal?_eq_none_iff : s.refusal? id = none ↔ ∃ scalar, s.getScalar id = .ok scalar :=
  Result.error?_eq_none_iff

theorem refusal?_eq_some_iff {error : StoreError} :
    s.refusal? id = some error ↔ s.getScalar id = .error error :=
  Result.error?_eq_some_iff

/-- Integers and numbers are scalars, and nothing else is. -/
theorem exists_getScalar_iff : (∃ scalar, s.getScalar id = .ok scalar) ↔
    ∃ value, s.get id = .ok value ∧ (value.kind = .int ∨ value.kind = .float) := by
  unfold getScalar
  cases s.get id with
  | error e => simp [bind, Except.bind]
  | ok value => cases value <;> simp [bind, Except.bind, Value.scalar?, Value.kind]

end Store

namespace Expression

variable {s t : Store} {e : Expression} {seen : List VariableId}

/-! ## Failure -/

/-- What was visited before stays in front. -/
theorem exists_visit_eq_append (e : Expression) (seen : List VariableId) :
    ∃ fresh, e.visit seen = seen ++ fresh := by
  induction e generalizing seen with
  | constant value => exact ⟨[], (List.append_nil seen).symm⟩
  | reference id =>
      rw [visit, VariableId.addTo]
      split
      · exact ⟨[], (List.append_nil seen).symm⟩
      · exact ⟨[id], rfl⟩
  | binary op lhs rhs ihl ihr =>
      obtain ⟨left, hleft⟩ := ihl seen
      obtain ⟨right, hright⟩ := ihr (lhs.visit seen)
      exact ⟨left ++ right, by rw [visit, hright, hleft, List.append_assoc]⟩
  | unary op operand ih => exact ih seen

/-- The first variable visited that is not a scalar is the one that evaluation stops at, as long as
all that were visited before are scalars. -/
theorem findSome?_visit (hseen : seen.findSome? s.refusal? = none) :
    (e.visit seen).findSome? s.refusal? = Result.error? (e.evaluate s) := by
  induction e generalizing seen with
  | constant value => exact hseen
  | reference id =>
      rw [visit, evaluate, VariableId.addTo]
      split
      · next hmem => rw [hseen, ← List.findSome?_eq_none_iff.1 hseen id hmem, Store.refusal?]
      · rw [List.findSome?_append, hseen, Option.none_or, List.findSome?_singleton, Store.refusal?]
  | binary op lhs rhs ihl ihr =>
      have hleft := ihl hseen
      rw [visit, evaluate]
      cases hlhs : lhs.evaluate s with
      | error error =>
          obtain ⟨fresh, hfresh⟩ := rhs.exists_visit_eq_append (lhs.visit seen)
          rw [hfresh, List.findSome?_append, hleft, hlhs]
          rfl
      | ok a =>
          rw [ihr (by rw [hleft, hlhs]; rfl)]
          cases rhs.evaluate s <;> rfl
  | unary op operand ih =>
      rw [visit, evaluate, ih hseen]
      cases operand.evaluate s <;> rfl

theorem findSome?_reads (e : Expression) (s : Store) :
    e.reads.findSome? s.refusal? = Result.error? (e.evaluate s) :=
  findSome?_visit rfl

/-! ## What is read -/

theorem evaluate_congr (h : ∀ id ∈ e.reads, t.getScalar id = s.getScalar id) :
    e.evaluate t = e.evaluate s := by
  induction e with
  | constant value => rfl
  | reference id => exact h id (by simp [reads, visit, VariableId.addTo])
  | binary op lhs rhs ihl ihr =>
      have hlhs := ihl fun id hid => h id (mem_reads_binary.2 (.inl hid))
      have hrhs := ihr fun id hid => h id (mem_reads_binary.2 (.inr hid))
      rw [evaluate, evaluate, hlhs, hrhs]
  | unary op operand ih => rw [evaluate, evaluate, ih h]

/-- An expression has a value just if every variable that it reads holds an integer or a number.  It
fails with an error just if that is why the first of its variables that is not a scalar cannot be
read, and both sides of an operator count, whatever the other side is.  Its value or error depends
on nothing but what these variables are as scalars. -/
theorem evaluate_resolves (e : Expression) (s : Store) :
    ((∃ value, e.evaluate s = .ok value) ↔
      ∀ id ∈ e.reads, ∃ value, s.get id = .ok value ∧
        (value.kind = .int ∨ value.kind = .float)) ∧
    (∀ error, e.evaluate s = .error error ↔
      ∃ front id back, e.reads = front ++ id :: back ∧ s.getScalar id = .error error ∧
        ∀ earlier ∈ front, ∃ scalar, s.getScalar earlier = .ok scalar) ∧
    ∀ t : Store, (∀ id ∈ e.reads, t.getScalar id = s.getScalar id) →
      e.evaluate t = e.evaluate s := by
  have hreads := e.findSome?_reads s
  refine ⟨?_, fun error => ?_, fun t => evaluate_congr⟩
  · rw [← Result.error?_eq_none_iff, ← hreads, List.findSome?_eq_none_iff]
    simp only [Store.refusal?_eq_none_iff, Store.exists_getScalar_iff]
  · rw [← Result.error?_eq_some_iff, ← hreads, List.findSome?_eq_some_iff]
    simp only [Store.refusal?_eq_some_iff, Store.refusal?_eq_none_iff]

/-- One is true, but the other side of the disjunction is evaluated all the same; the text is read
before the variable that is not there. -/
theorem evaluate_resolves_disjunction :
    let s : Store := ⟨[⟨⟨1⟩, .int 1, false⟩, ⟨⟨2⟩, .text "on", false⟩], [], 3⟩
    let e : Expression := .binary .or (.reference ⟨1⟩)
      (.binary .add (.reference ⟨1⟩) (.binary .div (.reference ⟨2⟩) (.reference ⟨3⟩)))
    e.reads = [⟨1⟩, ⟨2⟩, ⟨3⟩] ∧
      e.evaluate s = .error (.kindMismatch ⟨2⟩ .number .text) := by
  intro s e
  have hreads : e.reads = [⟨1⟩, ⟨2⟩, ⟨3⟩] := by decide
  obtain ⟨-, herror, -⟩ := evaluate_resolves e s
  exact ⟨hreads, (herror _).2 ⟨[⟨1⟩], ⟨2⟩, [⟨3⟩], hreads, rfl, fun id hid =>
    ⟨.int 1, by rw [List.mem_singleton.1 hid]; rfl⟩⟩⟩

end Expression

end Panel
