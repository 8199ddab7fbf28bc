import Panel.Derived
import Panel.Proofs.Result
import Panel.Proofs.Store.Write

/-!
# What a recipe reads

A `View` answers every read of a variable, as a store does but not necessarily out of one.  Recipes
compute in a view what they compute in a store, and look at nothing but their dependencies.
-/

namespace Panel

theorem VariableId.mem_addTo {seen : List VariableId} {id other : VariableId} :
    other ∈ addTo seen id ↔ other ∈ seen ∨ other = id := by
  unfold addTo
  split
  · constructor
    · exact .inl
    · rintro (hmem | rfl) <;> assumption
  · simp

theorem VariableId.mem_foldl_addTo {ids seen : List VariableId} {other : VariableId} :
    other ∈ ids.foldl addTo seen ↔ other ∈ seen ∨ other ∈ ids := by
  induction ids generalizing seen with
  | nil => simp
  | cons id ids ih => rw [List.foldl_cons, ih, mem_addTo, List.mem_cons, or_assoc]

theorem VariableId.nodup_foldl_addTo {ids seen : List VariableId} (h : seen.Nodup) :
    (ids.foldl addTo seen).Nodup := by
  induction ids generalizing seen with
  | nil => exact h
  | cons id ids ih =>
      apply ih
      unfold addTo
      split
      · exact h
      · next hid =>
          rw [← List.concat_eq_append]
          exact h.concat hid

/-! ## Views -/

/-- What is answered when a variable is read. -/
abbrev View := VariableId → Except StoreError Value

namespace View

/-- The integer in a variable. -/
def int (v : View) (id : VariableId) : Except StoreError Int32 := do
  match ← v id with
  | .int value => .ok value
  | other => .error (.kindMismatch id (.kind .int) other.kind)

/-- The text in a variable. -/
def text (v : View) (id : VariableId) : Except StoreError String := do
  match ← v id with
  | .text value => .ok value
  | other => .error (.kindMismatch id (.kind .text) other.kind)

/-- The list in a variable. -/
def list (v : View) (id : VariableId) : Except StoreError (List VariableId) := do
  match ← v id with
  | .list items => .ok items
  | other => .error (.kindMismatch id (.kind .list) other.kind)

/-- The integer or number in a variable. -/
def scalar (v : View) (id : VariableId) : Except StoreError Scalar := do
  let value ← v id
  match value.scalar? with
  | some scalar => .ok scalar
  | none => .error (.kindMismatch id .number value.kind)

/-- The variable at a position of a list. -/
def element (v : View) (list : VariableId) (index : Int) : Except StoreError VariableId := do
  let items ← v.list list
  match (if 0 ≤ index then items[index.toNat]? else none) with
  | some id => .ok id
  | none => .error (.indexOutOfBounds list index)

theorem mem_of_element {v : View} {list id : VariableId} {index : Int}
    (h : v.element list index = .ok id) : ∃ items, v.list list = .ok items ∧ id ∈ items := by
  obtain ⟨items, hitems, h⟩ := Result.bind_eq_ok.1 h
  refine ⟨items, hitems, ?_⟩
  by_cases hindex : 0 ≤ index
  · rw [if_pos hindex] at h
    cases hfound : items[index.toNat]? with
    | none => simp [hfound] at h
    | some found =>
        simp only [hfound, Except.ok.injEq] at h
        exact h ▸ List.mem_of_getElem? hfound
  · simp [hindex] at h

end View

/-- The value of an expression in a view. -/
def Expression.evaluateIn (v : View) : Expression → Except StoreError Scalar
  | constant value => .ok value
  | reference id => v.scalar id
  | binary op lhs rhs => do
    let a ← lhs.evaluateIn v
    let b ← rhs.evaluateIn v
    return op.apply a b
  | unary op operand => do
    return op.apply (← operand.evaluateIn v)

namespace Recipe

/-- What a recipe computes in a view. -/
def computeIn (v : View) : Recipe → Except StoreError Value
  | integer e => do return .int (← e.evaluateIn v).toInt32
  | float e => do return .float (← e.evaluateIn v).toSingle
  | textLookup list index => do
    let index ← v.int index
    let element ← v.element list index.toInt
    return .text (← v.text element)
  | textFromNumber source places => do
    match ← v source with
    | .int value => return .text (Decimal.signed value.toInt)
    | .float value => return .text (Decimal.fixed places.toNat value)
    | other => .error (.kindMismatch source .number other.kind)

/-- What a recipe computes in a view, or the default of its kind where it fails. -/
def valueIn (v : View) (recipe : Recipe) : Value :=
  match recipe.computeIn v with
  | .ok value => value
  | .error _ => .default recipe.kind

end Recipe

/-! ## Stores are views -/

theorem Expression.evaluate_eq (s : Store) (e : Expression) :
    e.evaluate s = e.evaluateIn s.get := by
  induction e with
  | constant value => rfl
  | reference id => rfl
  | binary op lhs rhs ihl ihr => rw [evaluate, evaluateIn, ihl, ihr]
  | unary op operand ih => rw [evaluate, evaluateIn, ih]

theorem Recipe.compute_eq (s : Store) (r : Recipe) : r.compute s = r.computeIn s.get := by
  cases r with
  | integer e => rw [compute, computeIn, e.evaluate_eq]
  | float e => rw [compute, computeIn, e.evaluate_eq]
  | textLookup list index => rfl
  | textFromNumber source places => rfl

theorem Recipe.value_eq (s : Store) (r : Recipe) : r.value s = r.valueIn s.get := by
  cases h : r.computeIn s.get with
  | error e => simp only [value, valueIn, compute_eq, h]
  | ok found => simp only [value, valueIn, compute_eq, h]

/-! ## Kinds -/

theorem Recipe.kind_of_computeIn {v : View} {r : Recipe} {value : Value}
    (h : r.computeIn v = .ok value) : value.kind = r.kind := by
  cases r with
  | integer e =>
      obtain ⟨scalar, -, ⟨⟩⟩ := Result.bind_eq_ok.1 h
      rfl
  | float e =>
      obtain ⟨scalar, -, ⟨⟩⟩ := Result.bind_eq_ok.1 h
      rfl
  | textLookup list index =>
      obtain ⟨position, -, h⟩ := Result.bind_eq_ok.1 h
      obtain ⟨element, -, h⟩ := Result.bind_eq_ok.1 h
      obtain ⟨text, -, ⟨⟩⟩ := Result.bind_eq_ok.1 h
      rfl
  | textFromNumber source places =>
      obtain ⟨found, -, h⟩ := Result.bind_eq_ok.1 h
      cases found <;> cases h <;> rfl

theorem Recipe.kind_valueIn (v : View) (r : Recipe) : (r.valueIn v).kind = r.kind := by
  unfold valueIn
  cases h : r.computeIn v with
  | error e => exact Value.kind_default r.kind
  | ok value => exact kind_of_computeIn h

theorem Recipe.kind_value (s : Store) (r : Recipe) : (r.value s).kind = r.kind := by
  rw [value_eq, kind_valueIn]

theorem Recipe.kind_ne_list (r : Recipe) : r.kind ≠ .list := by
  cases r <;> nofun

/-! ## Dependencies -/

theorem Expression.mem_visit {e : Expression} {seen : List VariableId} {id : VariableId} :
    id ∈ e.visit seen ↔ id ∈ seen ∨ id ∈ e.reads := by
  unfold reads
  induction e generalizing seen with
  | constant value => simp [visit]
  | reference other => simp [visit, VariableId.mem_addTo]
  | binary op lhs rhs ihl ihr =>
      rw [visit, visit, ihr, ihl, @ihr (lhs.visit []), or_assoc]
  | unary op operand ih => exact ih

theorem Expression.mem_reads_binary {op : BinaryOp} {lhs rhs : Expression} {id : VariableId} :
    id ∈ (binary op lhs rhs).reads ↔ id ∈ lhs.reads ∨ id ∈ rhs.reads := by
  rw [reads, visit, mem_visit]
  rfl

theorem Expression.evaluateIn_congr {v w : View} {e : Expression}
    (h : ∀ id ∈ e.reads, v id = w id) : e.evaluateIn v = e.evaluateIn w := by
  induction e with
  | constant value => rfl
  | reference id =>
      have hid : v id = w id := h id (by simp [reads, visit, VariableId.addTo])
      rw [evaluateIn, evaluateIn, View.scalar, View.scalar, hid]
  | binary op lhs rhs ihl ihr =>
      have hlhs := ihl fun id hid => h id (mem_reads_binary.2 (.inl hid))
      have hrhs := ihr fun id hid => h id (mem_reads_binary.2 (.inr hid))
      rw [evaluateIn, evaluateIn, hlhs, hrhs]
  | unary op operand ih =>
      have hoperand := ih h
      rw [evaluateIn, evaluateIn, hoperand]

namespace Recipe

variable {s t : Store} {v : View} {r : Recipe} {list index id : VariableId}

theorem mem_dependencies_textLookup :
    id ∈ (textLookup list index).dependencies s ↔ id = list ∨ id = index ∨
      ∃ items, s.getList list = .ok items ∧ id ∈ items := by
  cases hlist : s.getList list with
  | error e => simp [dependencies, hlist]
  | ok items => simp [dependencies, hlist, VariableId.mem_foldl_addTo, or_assoc]

theorem computeIn_textLookup_congr
    (h : ∀ id ∈ (textLookup list index).dependencies s, v id = s.get id) :
    (textLookup list index).computeIn v = (textLookup list index).computeIn s.get := by
  have hlist : v list = s.get list := h list (mem_dependencies_textLookup.2 (.inl rfl))
  have hindex : v index = s.get index := h index (mem_dependencies_textLookup.2 (.inr (.inl rfl)))
  have hposition : v.int index = View.int s.get index := by rw [View.int, View.int, hindex]
  have helement (position : Int) : v.element list position = View.element s.get list position := by
    rw [View.element, View.element, View.list, View.list, hlist]
  rw [computeIn, computeIn, hposition]
  refine bind_congr fun position => ?_
  rw [helement]
  cases hfound : View.element s.get list position.toInt with
  | error e => rfl
  | ok element =>
      obtain ⟨items, hitems, hmem⟩ := View.mem_of_element hfound
      have hsame := h element (mem_dependencies_textLookup.2 (.inr (.inr ⟨items, hitems, hmem⟩)))
      have htext : v.text element = View.text s.get element := by
        rw [View.text, View.text, hsame]
      simp only [bind, Except.bind, htext]

/-- A recipe computes the same in a view that answers its dependencies as the store does. -/
theorem computeIn_congr (h : ∀ id ∈ r.dependencies s, v id = s.get id) :
    r.computeIn v = r.computeIn s.get := by
  cases r with
  | integer e => rw [computeIn, computeIn, Expression.evaluateIn_congr h]
  | float e => rw [computeIn, computeIn, Expression.evaluateIn_congr h]
  | textLookup list index => exact computeIn_textLookup_congr h
  | textFromNumber source places =>
      have hsource : v source = s.get source := h source (List.mem_singleton.2 rfl)
      rw [computeIn, computeIn, hsource]

theorem valueIn_congr (h : ∀ id ∈ r.dependencies s, v id = s.get id) : r.valueIn v = r.value s := by
  rw [value_eq, valueIn, valueIn, computeIn_congr h]

theorem value_congr (h : ∀ id ∈ r.dependencies s, t.get id = s.get id) :
    r.value t = r.value s := by
  rw [value_eq t, valueIn_congr h]

/-- Only a change of lists changes what a recipe depends on. -/
theorem dependencies_congr (h : ∀ id, t.getList id = s.getList id) (r : Recipe) :
    r.dependencies t = r.dependencies s := by
  cases r with
  | textLookup list index => rw [dependencies, dependencies, h]
  | _ => rfl

end Recipe

end Panel
