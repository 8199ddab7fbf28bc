import Mathlib.Data.List.Induction
import Panel.Proofs.Content.Accepted
import Panel.Proofs.Derived.Refresh

/-!
# Declared variables

Content that is built declares every derived variable in a slot of its own, with the kind of what
its recipe computes.
-/

namespace Panel

namespace Store

variable {derived : List DerivedVariable} {s t : Store} {id other : VariableId} {value : Value}

theorem slots_of_insert (h : s.insert id value = .ok t) :
    id ∉ s.ids ∧ t.slots = s.slots ++ [⟨id, value, false⟩] := by
  rw [insert, Result.ite_error_eq_ok, contains_eq_true_iff, Result.ok_eq_ok] at h
  obtain ⟨hid, rfl⟩ := h
  exact ⟨hid, rfl⟩

theorem slot?_insert_self (h : s.insert id value = .ok t) :
    t.slot? id = some ⟨id, value, false⟩ := by
  obtain ⟨hid, hslots⟩ := slots_of_insert h
  have hnone := slot?_eq_none_iff.2 hid
  rw [slot?] at hnone
  rw [slot?, hslots, List.find?_append, hnone]
  simp

theorem slot?_insert_of_mem (h : s.insert id value = .ok t) (hother : other ∈ s.ids) :
    t.slot? other = s.slot? other := by
  obtain ⟨-, hslots⟩ := slots_of_insert h
  cases hslot : s.slot? other with
  | none => exact absurd hother (slot?_eq_none_iff.1 hslot)
  | some slot =>
      rw [slot?] at hslot
      rw [slot?, hslots, List.find?_append, hslot, Option.some_or]

theorem Declares.mem_ids {d : DerivedVariable} (h : s.Declares derived) (hd : d ∈ derived) :
    d.id ∈ s.ids := by
  obtain ⟨value, hslot, -⟩ := h.slot d hd
  by_contra hid
  rw [slot?_eq_none_iff.2 hid] at hslot
  contradiction

theorem Declares.insert (h : s.Declares derived) (hinsert : s.insert id value = .ok t) :
    t.Declares derived where
  ids := by
    rw [ids_of_insert hinsert, ← List.concat_eq_append]
    exact h.ids.concat (slots_of_insert hinsert).1
  derivedIds := h.derivedIds
  slot := by
    intro d hd
    rw [slot?_insert_of_mem hinsert (h.mem_ids hd)]
    exact h.slot d hd

theorem Declares.derive {d : DerivedVariable} (h : s.Declares derived)
    (hinsert : s.insert d.id (.default d.recipe.kind) = .ok t) :
    t.Declares (derived ++ [d]) where
  ids := (h.insert hinsert).ids
  derivedIds := by
    rw [List.map_append, List.map_singleton, ← List.concat_eq_append]
    apply h.derivedIds.concat
    intro hmem
    obtain ⟨e, he, heq⟩ := List.mem_map.1 hmem
    exact (slots_of_insert hinsert).1 (heq ▸ h.mem_ids he)
  slot := by
    intro e he
    rcases List.mem_append.1 he with he | he
    · exact (h.insert hinsert).slot e he
    · rw [List.mem_singleton.1 he]
      exact ⟨_, slot?_insert_self hinsert, Value.kind_default _⟩

theorem Declares.bindName (h : s.Declares derived) (name : String) (id : VariableId) :
    (s.bindName name id).Declares derived :=
  ⟨h.ids, h.derivedIds, h.slot⟩

end Store

namespace Assembly

variable {maxDepth : Nat} {a b : Assembly} {op : Operation}

theorem declares_step (h : a.store.Declares a.derived) (hstep : step maxDepth a op = .ok b) :
    b.store.Declares b.derived := by
  cases op with
  | value id value =>
      obtain ⟨store, hinsert, rfl⟩ := declare_eq_ok.1 hstep
      exact h.insert hinsert
  | name id name =>
      cases hstep
      exact h.bindName name id
  | derived d =>
      obtain ⟨store, hinsert, rfl⟩ := derive_eq_ok.1 hstep
      exact h.derive hinsert
  | component id kind =>
      obtain ⟨-, -, -, rfl⟩ := component_eq_ok.1 hstep
      split
      · exact h
      · rw [store_attach, derived_attach]
        exact h
  | containerEnd =>
      obtain ⟨-, s, outer, -, rfl⟩ := close_eq_ok.1 hstep
      rw [store_attach, derived_attach]
      exact h
  | modifier m =>
      cases hstep
      exact h
  | action declared =>
      obtain ⟨-, rfl⟩ := action_eq_ok.1 hstep
      exact h

theorem declares_of_foldlM {operations : List Operation}
    (hrun : operations.foldlM (step maxDepth) start = .ok a) : a.store.Declares a.derived := by
  induction operations using List.reverseRecOn generalizing a with
  | nil =>
      cases hrun
      exact ⟨List.nodup_nil, List.nodup_nil, fun d hd => absurd hd List.not_mem_nil⟩
  | append_singleton operations op ih =>
      obtain ⟨m, hfront, hstep⟩ := Result.foldlM_concat_eq_ok.1 hrun
      exact declares_step (ih hfront) hstep

end Assembly

theorem Content.declares_of_ofOperations {operations : List Operation} {maxDepth : Nat}
    {content : Content} (h : ofOperations operations maxDepth = .ok content) :
    content.store.Declares content.derived := by
  obtain ⟨a, hrun, hfinish⟩ := ofOperations_eq_ok.1 h
  obtain ⟨-, -, root, -, -, rfl⟩ := Assembly.finish_eq_ok.1 hfinish
  exact Assembly.declares_of_foldlM hrun

end Panel
