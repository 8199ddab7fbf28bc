import Panel.Proofs.Content.Declared

/-!
# Values that operations declare

A variable that an operation declares with a value has that value when the content is built, and no
recipe is given for it, so that the first refresh leaves it alone.
-/

namespace Panel

namespace Assembly

variable {maxDepth : Nat} {a b : Assembly} {before : List Operation} {op : Operation}
  {id : VariableId} {value : Value}

/-- Every variable that was declared with a value has it, and has no recipe. -/
def Valued (before : List Operation) (a : Assembly) : Prop :=
  ∀ id value, .value id value ∈ before →
    a.store.slot? id = some ⟨id, value, false⟩ ∧ id ∉ a.derived.map (·.id)

theorem Valued.mem_ids (h : a.Valued before) (hop : .value id value ∈ before) :
    id ∈ a.store.ids := by
  by_contra hid
  have hslot := (h id value hop).1
  rw [Store.slot?_eq_none_iff.2 hid] at hslot
  contradiction

theorem Valued.concat (h : a.Valued before) (hop : op.declaredVariable? = none)
    (hslots : b.store.slots = a.store.slots) (hderived : b.derived = a.derived) :
    b.Valued (before ++ [op]) := by
  intro id value hmem
  rcases List.mem_append.1 hmem with hmem | hmem
  · rw [Store.slot?, hslots, hderived]
    exact h id value hmem
  · rw [← List.mem_singleton.1 hmem] at hop
    contradiction

theorem Valued.declare (h : a.Valued before) (hdeclares : a.store.Declares a.derived)
    {store : Store} (hinsert : a.store.insert id value = .ok store) :
    Valued (before ++ [.value id value]) { a with store } := by
  intro other held hmem
  rcases List.mem_append.1 hmem with hmem | hmem
  · rw [Store.slot?_insert_of_mem hinsert (h.mem_ids hmem)]
    exact h other held hmem
  · obtain ⟨rfl, rfl⟩ := Operation.value.inj (List.mem_singleton.1 hmem)
    refine ⟨Store.slot?_insert_self hinsert, fun hrecipe => ?_⟩
    obtain ⟨d, hd, rfl⟩ := List.mem_map.1 hrecipe
    exact (Store.slots_of_insert hinsert).1 (hdeclares.mem_ids hd)

theorem Valued.derive (h : a.Valued before) {d : DerivedVariable} {store : Store}
    (hinsert : a.store.insert d.id (.default d.recipe.kind) = .ok store) :
    Valued (before ++ [.derived d]) { a with store, derived := a.derived ++ [d] } := by
  intro id value hmem
  rcases List.mem_append.1 hmem with hmem | hmem
  · have hid := h.mem_ids hmem
    have hne : id ≠ d.id := fun heq => (Store.slots_of_insert hinsert).1 (heq ▸ hid)
    rw [Store.slot?_insert_of_mem hinsert hid, List.map_append, List.mem_append, not_or]
    exact ⟨(h id value hmem).1, (h id value hmem).2, mt List.mem_singleton.1 hne⟩
  · rw [List.mem_singleton] at hmem
    contradiction

theorem Valued.step (h : a.Valued before) (hdeclares : a.store.Declares a.derived)
    (hstep : Assembly.step maxDepth a op = .ok b) : b.Valued (before ++ [op]) := by
  cases op with
  | value id value =>
      obtain ⟨store, hinsert, rfl⟩ := declare_eq_ok.1 hstep
      exact h.declare hdeclares hinsert
  | name id name =>
      cases hstep
      exact h.concat rfl rfl rfl
  | derived d =>
      obtain ⟨store, hinsert, rfl⟩ := derive_eq_ok.1 hstep
      exact h.derive hinsert
  | component id kind =>
      obtain ⟨-, -, -, rfl⟩ := component_eq_ok.1 hstep
      split
      · exact h.concat rfl rfl rfl
      · exact h.concat rfl (congrArg Store.slots (store_attach _)) (derived_attach _)
  | containerEnd =>
      obtain ⟨-, s, outer, -, rfl⟩ := close_eq_ok.1 hstep
      exact h.concat rfl (congrArg Store.slots (store_attach _)) (derived_attach _)
  | modifier m =>
      cases hstep
      exact h.concat rfl rfl rfl
  | action declared =>
      obtain ⟨-, rfl⟩ := action_eq_ok.1 hstep
      exact h.concat rfl rfl rfl

theorem valued_of_foldlM {operations : List Operation}
    (hrun : operations.foldlM (Assembly.step maxDepth) start = .ok a) : a.Valued operations := by
  induction operations using List.reverseRecOn generalizing a with
  | nil => exact fun _ _ hmem => absurd hmem List.not_mem_nil
  | append_singleton operations op ih =>
      obtain ⟨m, hfront, hstep⟩ := Result.foldlM_concat_eq_ok.1 hrun
      exact (ih hfront).step (declares_of_foldlM hfront) hstep

end Assembly

/-- A variable that was declared with a value has it after the first refresh. -/
theorem Content.get_refreshed_of_ofOperations {operations : List Operation} {maxDepth : Nat}
    {content : Content} {id : VariableId} {value : Value}
    (h : ofOperations operations maxDepth = .ok content) (hop : .value id value ∈ operations) :
    (content.store.refreshed content.derived).get id = .ok value := by
  have hdeclares := declares_of_ofOperations h
  obtain ⟨a, hrun, hfinish⟩ := ofOperations_eq_ok.1 h
  obtain ⟨-, -, root, -, -, rfl⟩ := Assembly.finish_eq_ok.1 hfinish
  obtain ⟨hslot, hrecipe⟩ := Assembly.valued_of_foldlM hrun id value hop
  rw [Store.get_refreshed_of_notMem hdeclares hrecipe]
  exact Store.get_of_slot? hslot

end Panel
