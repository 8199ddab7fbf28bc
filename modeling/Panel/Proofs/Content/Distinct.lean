import Panel.Proofs.Content.Trace

/-!
# Names that are declared once

Operations whose names are all different may still fail to make a document, but never for a name
that is declared twice.
-/

namespace Panel

/-- Whether a name that is declared twice is to blame. -/
def DecodeError.isDuplicate : DecodeError → Bool
  | duplicateVariable _ => true
  | duplicateComponent _ => true
  | duplicateAction _ => true
  | _ => false

namespace Assembly

variable {maxDepth : Nat} {a : Assembly} {op : Operation} {error : DecodeError}

/-- The step declares a name that is taken. -/
def Repeats (a : Assembly) (op : Operation) : Prop :=
  (∃ id, op.declaredVariable? = some id ∧ id ∈ a.store.ids) ∨
    (∃ id, op.declaredComponent? = some id ∧ id ∈ a.components) ∨
      ∃ id, op.declaredAction? = some id ∧ id ∈ a.actions.map (·.id)

theorem mem_ids_of_declare_error {id : VariableId} {value : Value}
    (h : a.declare id value = .error error) : id ∈ a.store.ids := by
  by_contra hnew
  obtain ⟨store, hinsert⟩ := (a.store.exists_insert_eq_ok id value).2 hnew
  rw [declare, hinsert] at h
  contradiction

theorem mem_components_of_component_error {id : ComponentId} {kind : ComponentKind}
    (h : a.component maxDepth id kind = .error error) (hduplicate : error.isDuplicate = true) :
    id ∈ a.components := by
  unfold component at h
  split at h
  · cases h
    contradiction
  split at h
  · cases h
    contradiction
  split at h
  · cases h
    contradiction
  split at h
  · assumption
  · dsimp only at h
    split at h <;> contradiction

theorem not_isDuplicate_of_close_error (h : a.close = .error error) :
    error.isDuplicate = false := by
  unfold close at h
  split at h
  · cases h
    rfl
  · split at h
    · cases h
      rfl
    · contradiction

theorem mem_actions_of_action_error {declared : Action} (h : a.action declared = .error error) :
    declared.id ∈ a.actions.map (·.id) := by
  unfold action at h
  split at h
  · next hany => simpa using hany
  · contradiction

theorem repeats_of_step_error (h : step maxDepth a op = .error error)
    (hduplicate : error.isDuplicate = true) : a.Repeats op := by
  cases op with
  | value id value => exact .inl ⟨id, rfl, mem_ids_of_declare_error h⟩
  | name id name => contradiction
  | derived d =>
      rcases Result.bind_eq_error.1 h with h | ⟨_, _, h⟩
      · exact .inl ⟨d.id, rfl, mem_ids_of_declare_error h⟩
      · contradiction
  | component id kind =>
      exact .inr (.inl ⟨id, rfl, mem_components_of_component_error h hduplicate⟩)
  | containerEnd =>
      rw [not_isDuplicate_of_close_error h] at hduplicate
      contradiction
  | modifier m => contradiction
  | action declared => exact .inr (.inr ⟨declared.id, rfl, mem_actions_of_action_error h⟩)

theorem not_isDuplicate_of_finish_error (h : a.finish = .error error) :
    error.isDuplicate = false := by
  unfold finish at h
  split at h
  · cases h
    rfl
  split at h
  · cases h
    rfl
  split at h
  · cases h
    rfl
  · split at h
    · cases h
      rfl
    · contradiction

end Assembly

/-- Operations that declare each name once do not fail for one that is declared twice. -/
theorem Content.not_isDuplicate_of_ofOperations {operations : List Operation} {maxDepth : Nat}
    {error : DecodeError}
    (hvariables : (operations.filterMap Operation.declaredVariable?).Nodup)
    (hcomponents : (operations.filterMap Operation.declaredComponent?).Nodup)
    (hactions : (operations.filterMap Operation.declaredAction?).Nodup)
    (h : ofOperations operations maxDepth = .error error) : error.isDuplicate = false := by
  rcases Result.bind_eq_error.1 h with hrun | ⟨a, -, hfinish⟩
  · obtain ⟨before, op, after, a, hsplit, hbefore, hstep⟩ := Result.exists_of_foldlM_eq_error hrun
    have htables := (Assembly.trace_of_foldlM hbefore).tables
    rw [Bool.eq_false_iff]
    intro hduplicate
    rcases Assembly.repeats_of_step_error hstep hduplicate with
      ⟨id, hdeclared, hid⟩ | ⟨id, hdeclared, hid⟩ | ⟨id, hdeclared, hid⟩
    · rw [htables.store] at hid
      exact nodup_filterMap_iff.1 hvariables before op after hsplit id hdeclared hid
    · rw [htables.components] at hid
      exact nodup_filterMap_iff.1 hcomponents before op after hsplit id hdeclared hid
    · rw [htables.actions] at hid
      exact nodup_filterMap_iff.1 hactions before op after hsplit id hdeclared hid
  · exact Assembly.not_isDuplicate_of_finish_error hfinish

end Panel
