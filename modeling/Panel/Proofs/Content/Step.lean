import Panel.Content.Assembly
import Panel.Proofs.Component.Operations
import Panel.Proofs.Content.Admissible
import Panel.Proofs.Result

/-!
# One step of the assembly

One law for each kind of step: when it is taken, and everything that it changes.  The other proofs
about assemblies take steps apart by these laws alone.
-/

namespace Panel

theorem Store.contains_eq_true_iff {s : Store} {id : VariableId} :
    s.contains id = true ↔ id ∈ s.ids := by
  simp [contains, slot?, ids]

theorem Store.ids_of_insert {s s' : Store} {id : VariableId} {value : Value}
    (h : s.insert id value = .ok s') : s'.ids = s.ids ++ [id] := by
  rw [insert, Result.ite_error_eq_ok, Result.ok_eq_ok] at h
  rw [h.2]
  simp [ids, push]

theorem Store.exists_insert_eq_ok (s : Store) (id : VariableId) (value : Value) :
    (∃ s', s.insert id value = .ok s') ↔ id ∉ s.ids := by
  simp [insert, Result.ite_error_eq_ok, contains_eq_true_iff]

/-- The operations that a container stands for which is not closed yet. -/
def Scope.operations (s : Scope) : List Operation :=
  s.modifiers.map .modifier ++ .component s.id s.kind :: Component.operationsAll s.children

theorem Scope.operations_close {s : Scope} (hkind : s.kind.isContainer = true) :
    s.close.operations = s.operations ++ [.containerEnd] := by
  simp [close, operations, Component.operations, hkind]

namespace Assembly

variable {maxDepth : Nat} {a b : Assembly} {before : List Operation} {op : Operation}

/-! ## Steps -/

theorem declare_eq_ok {id : VariableId} {value : Value} :
    a.declare id value = .ok b ↔
      ∃ store, a.store.insert id value = .ok store ∧ b = { a with store } := by
  unfold declare
  cases a.store.insert id value with
  | error e => simp
  | ok store => simp only [Result.ok_eq_ok, exists_eq_left]

theorem derive_eq_ok {d : DerivedVariable} :
    a.derive d = .ok b ↔ ∃ store, a.store.insert d.id (.default d.recipe.kind) = .ok store ∧
      b = { a with store, derived := a.derived ++ [d] } := by
  simp only [derive, Result.bind_eq_ok, declare_eq_ok]
  constructor
  · rintro ⟨_, ⟨store, hstore, rfl⟩, ⟨⟩⟩
    exact ⟨store, hstore, rfl⟩
  · rintro ⟨store, hstore, rfl⟩
    exact ⟨_, ⟨store, hstore, rfl⟩, rfl⟩

theorem component_eq_ok {id : ComponentId} {kind : ComponentKind} :
    a.component maxDepth id kind = .ok b ↔
      (a.scopes = [] → a.root = none ∧ kind.isContainer = true) ∧ a.scopes.length < maxDepth ∧
        id ∉ a.components ∧
        b = if kind.isContainer then
          { a with
            components := a.components ++ [id], pending := []
            scopes := ⟨id, kind, a.pending, []⟩ :: a.scopes }
        else { a with components := a.components ++ [id], pending := [] }.attach
          (.node id kind a.pending []) := by
  have hroot : (¬(a.scopes.isEmpty && a.root.isSome) = true ∧
      ¬(a.scopes.isEmpty && !kind.isContainer) = true) ↔
      (a.scopes = [] → a.root = none ∧ kind.isContainer = true) := by
    cases a.scopes <;> simp
  simp only [component, Result.ite_error_eq_ok]
  rw [← and_assoc, hroot, Nat.not_lt, Nat.succ_le_iff]
  split <;> rw [Result.ok_eq_ok]

theorem close_eq_ok :
    a.close = .ok b ↔ a.pending = [] ∧ ∃ s outer, a.scopes = s :: outer ∧
      b = { a with scopes := outer }.attach s.close := by
  rw [close, Result.ite_error_eq_ok]
  cases a.scopes with
  | nil => simp
  | cons s outer =>
      rw [Result.ok_eq_ok]
      simp

theorem action_eq_ok {declared : Action} :
    a.action declared = .ok b ↔ declared.id ∉ a.actions.map (·.id) ∧
      b = { a with actions := a.actions ++ [declared] } := by
  rw [action, Result.ite_error_eq_ok, Result.ok_eq_ok]
  simp

end Assembly

end Panel
