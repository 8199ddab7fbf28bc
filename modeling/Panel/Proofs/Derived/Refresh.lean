import Mathlib.Data.List.Pairwise
import Panel.Proofs.Derived.Reading

/-!
# Refreshing derived variables

Refreshing writes the derived variables and nothing else.  If no recipe reads a variable that is
written after it, all derived variables then hold what their recipes compute: the store is
*settled*, and settled stores are those that refreshing does not change.
-/

namespace Panel.Store

variable {derived rest front back : List DerivedVariable} {d : DerivedVariable} {s t : Store}
  {id : VariableId}

/-- Every derived variable has a slot of its own, and it can be written there. -/
structure Declares (derived : List DerivedVariable) (s : Store) : Prop where
  ids : s.ids.Nodup
  derivedIds : (derived.map (·.id)).Nodup
  slot : ∀ d ∈ derived, ∃ value, s.slot? d.id = some ⟨d.id, value, false⟩ ∧
    value.kind = d.recipe.kind

/-- The names of the derived variables are distinct, and each leads to a slot that it can be
written to. -/
structure Writable (derived : List DerivedVariable) (s : Store) : Prop where
  derivedIds : (derived.map (·.id)).Nodup
  slot : ∀ d ∈ derived, ∃ value, s.slot? d.id = some ⟨d.id, value, false⟩ ∧
    value.kind = d.recipe.kind

theorem Declares.writable (h : s.Declares derived) : s.Writable derived :=
  ⟨h.derivedIds, h.slot⟩

/-- No derived variable reads itself or one that is declared later. -/
def Ordered (derived : List DerivedVariable) (s : Store) : Prop :=
  (∀ d ∈ derived, d.id ∉ d.recipe.dependencies s) ∧
    derived.Pairwise fun d later => later.id ∉ d.recipe.dependencies s

instance (derived : List DerivedVariable) (s : Store) : Decidable (s.Ordered derived) :=
  inferInstanceAs (Decidable (_ ∧ _))

/-- Every derived variable holds what its recipe computes. -/
def Settled (derived : List DerivedVariable) (s : Store) : Prop :=
  ∀ d ∈ derived, s.get d.id = .ok (d.recipe.value s)

/-! ## What declarations and order depend on -/

theorem Declares.of_cleared (h : s.Declares derived) (hcleared : s.cleared = t.cleared) :
    t.Declares derived where
  ids := ids_eq_of_cleared hcleared ▸ h.ids
  derivedIds := h.derivedIds
  slot := by
    intro d hd
    obtain ⟨old, hold, hkind⟩ := h.slot d hd
    obtain ⟨new, hnew, hsame⟩ := exists_slot?_of_cleared hcleared hold
    exact ⟨new, hnew, hsame.trans hkind⟩

theorem Declares.tail (h : s.Declares (d :: rest)) : s.Declares rest where
  ids := h.ids
  derivedIds := (List.nodup_cons.1 h.derivedIds).2
  slot := fun e he => h.slot e (.tail d he)

theorem Writable.notMem_tail (h : s.Writable (d :: rest)) : d.id ∉ rest.map (·.id) :=
  (List.nodup_cons.1 h.derivedIds).1

theorem ordered_congr (h : ∀ id, t.getList id = s.getList id) :
    t.Ordered derived ↔ s.Ordered derived := by
  simp only [Ordered, Recipe.dependencies_congr h]

/-- What a recipe reads is declared before it. -/
theorem Ordered.notMem_of_mem_dependencies (h : s.Ordered (front ++ d :: back))
    (hid : id ∈ d.recipe.dependencies s) : id ∉ (d :: back).map (·.id) := by
  have hself := h.1 d (List.mem_append_right front List.mem_cons_self)
  obtain ⟨hlater, -⟩ := List.pairwise_cons.1 (List.pairwise_append.1 h.2).2.1
  intro hmem
  obtain ⟨e, he, rfl⟩ := List.mem_map.1 hmem
  rcases List.mem_cons.1 he with rfl | he
  · exact hself hid
  · exact hlater e he hid

/-! ## One derived variable -/

/-- The store after writing one derived variable. -/
def settle (d : DerivedVariable) (s : Store) : Store := s.write d.id (d.recipe.value s)

theorem Writable.refresh_eq (h : s.Writable derived) (hd : d ∈ derived) :
    (d.refresh s).2 = s.settle d := by
  obtain ⟨old, hold, hkind⟩ := h.slot d hd
  have hset := set_eq_ok.2 ⟨old, hold, hkind.trans (d.recipe.kind_value s).symm, rfl, rfl⟩
  rw [DerivedVariable.refresh, hset, settle]

theorem Declares.cleared_settle (h : s.Declares derived) (hd : d ∈ derived) :
    (s.settle d).cleared = s.cleared := by
  obtain ⟨old, hold, hkind⟩ := h.slot d hd
  exact cleared_write h.ids hold (hkind.trans (d.recipe.kind_value s).symm)

theorem Writable.getList_settle (h : s.Writable derived) (hd : d ∈ derived) (id : VariableId) :
    (s.settle d).getList id = s.getList id := by
  obtain ⟨old, hold, hkind⟩ := h.slot d hd
  have hvalue := d.recipe.kind_value s
  apply getList_write hold (hkind.trans hvalue.symm)
  rw [hvalue]
  exact d.recipe.kind_ne_list

theorem Writable.get_settle (h : s.Writable derived) (hd : d ∈ derived) :
    (s.settle d).get d.id = .ok (d.recipe.value s) := by
  obtain ⟨old, hold, -⟩ := h.slot d hd
  exact get_write_self hold

theorem get_settle_of_ne (hid : id ≠ d.id) : (s.settle d).get id = s.get id :=
  get_write_of_ne hid

theorem Declares.settle (h : s.Declares (d :: rest)) : (s.settle d).Declares rest :=
  h.tail.of_cleared (h.cleared_settle List.mem_cons_self).symm

theorem Writable.settle (h : s.Writable (d :: rest)) : (s.settle d).Writable rest where
  derivedIds := (List.nodup_cons.1 h.derivedIds).2
  slot := by
    intro e he
    have hne : e.id ≠ d.id := fun heq => h.notMem_tail (heq ▸ List.mem_map_of_mem he)
    obtain ⟨value, hslot, hkind⟩ := h.slot e (.tail d he)
    exact ⟨value, (slot?_write_of_ne hne).trans hslot, hkind⟩

/-! ## All derived variables -/

theorem Writable.refreshed_cons (h : s.Writable (d :: rest)) :
    s.refreshed (d :: rest) = (s.settle d).refreshed rest := by
  rw [← h.refresh_eq List.mem_cons_self]
  rfl

theorem cleared_refreshed (h : s.Declares derived) :
    (s.refreshed derived).cleared = s.cleared := by
  induction derived generalizing s with
  | nil => rfl
  | cons d rest ih =>
      rw [h.writable.refreshed_cons, ih h.settle, h.cleared_settle List.mem_cons_self]

theorem Declares.refreshed (h : s.Declares derived) : (s.refreshed derived).Declares derived :=
  h.of_cleared (cleared_refreshed h).symm

theorem Writable.get_refreshed (h : s.Writable derived) (hid : id ∉ derived.map (·.id)) :
    (s.refreshed derived).get id = s.get id := by
  induction derived generalizing s with
  | nil => rfl
  | cons d rest ih =>
      rw [List.map_cons, List.mem_cons, not_or] at hid
      rw [h.refreshed_cons, ih h.settle hid.2, get_settle_of_ne hid.1]

theorem Writable.getList_refreshed (h : s.Writable derived) (id : VariableId) :
    (s.refreshed derived).getList id = s.getList id := by
  induction derived generalizing s with
  | nil => rfl
  | cons d rest ih =>
      rw [h.refreshed_cons, ih h.settle, h.getList_settle List.mem_cons_self]

/-- A refresh settles the store, because nothing that a recipe has read is written after it. -/
theorem Writable.settled_refreshed (h : s.Writable derived) (hordered : s.Ordered derived) :
    (s.refreshed derived).Settled derived := by
  induction derived generalizing s with
  | nil => exact fun d hd => absurd hd List.not_mem_nil
  | cons d rest ih =>
      have hfirst : d ∈ d :: rest := List.mem_cons_self
      have hwhole : s.Ordered ([] ++ d :: rest) := hordered
      rw [h.refreshed_cons, Settled, List.forall_mem_cons]
      constructor
      · have hreads : ∀ id ∈ d.recipe.dependencies s,
            ((s.settle d).refreshed rest).get id = s.get id := by
          intro id hid
          have hnotMem := hwhole.notMem_of_mem_dependencies hid
          rw [List.map_cons, List.mem_cons, not_or] at hnotMem
          rw [h.settle.get_refreshed hnotMem.2, get_settle_of_ne hnotMem.1]
        rw [Recipe.value_congr hreads, h.settle.get_refreshed h.notMem_tail, h.get_settle hfirst]
      · apply ih h.settle
        rw [ordered_congr (h.getList_settle hfirst)]
        exact ⟨fun e he => hordered.1 e (.tail d he), hordered.2.of_cons⟩

theorem get_refreshed_of_notMem (h : s.Declares derived) (hid : id ∉ derived.map (·.id)) :
    (s.refreshed derived).get id = s.get id :=
  h.writable.get_refreshed hid

theorem getList_refreshed (h : s.Declares derived) (id : VariableId) :
    (s.refreshed derived).getList id = s.getList id :=
  h.writable.getList_refreshed id

theorem ordered_refreshed (h : s.Declares derived) :
    (s.refreshed derived).Ordered derived ↔ s.Ordered derived :=
  ordered_congr (getList_refreshed h)

theorem settled_refreshed (h : s.Declares derived) (hordered : s.Ordered derived) :
    (s.refreshed derived).Settled derived :=
  h.writable.settled_refreshed hordered

/-- Settled stores are the fixed points of refreshing. -/
theorem refreshed_eq_self_iff (h : s.Declares derived) :
    s.refreshed derived = s ↔ s.Settled derived := by
  induction derived with
  | nil => exact iff_of_true rfl fun d hd => absurd hd List.not_mem_nil
  | cons d rest ih =>
      have hsame (hget : s.get d.id = .ok (d.recipe.value s)) : s.settle d = s :=
        write_eq_self h.ids hget
      rw [h.writable.refreshed_cons, Settled, List.forall_mem_cons, ← Settled, ← ih h.tail]
      constructor
      · intro hfixed
        have hget : s.get d.id = .ok (d.recipe.value s) := by
          have hlast := get_refreshed_of_notMem h.settle h.writable.notMem_tail
          rwa [hfixed, h.writable.get_settle List.mem_cons_self] at hlast
        rw [hsame hget] at hfixed
        exact ⟨hget, hfixed⟩
      · intro ⟨hget, hfixed⟩
        rw [hsame hget, hfixed]

theorem refreshed_refreshed (h : s.Declares derived) (hordered : s.Ordered derived) :
    (s.refreshed derived).refreshed derived = s.refreshed derived :=
  (refreshed_eq_self_iff h.refreshed).2 (settled_refreshed h hordered)

end Panel.Store
