import Mathlib.Data.List.Induction
import Panel.Proofs.Derived.Refresh

/-!
# Derived variables on demand

Instead of being kept in slots, derived variables may be computed whenever they are read, from the
other variables alone.  `View.onDemand` does so.  A settled store answers every read as it does, so
that the slots of derived variables are no more than a cache.
-/

namespace Panel

/-! ## Views with derived variables -/

namespace View

/-- A view that answers for one more derived variable, from what it answers already. -/
def derive (v : View) (d : DerivedVariable) : View :=
  fun id => if id = d.id then .ok (d.recipe.valueIn v) else v id

/-- A view that computes derived variables when they are read, each from those declared before. -/
def onDemand (derived : List DerivedVariable) (v : View) : View := derived.foldl derive v

theorem onDemand_concat (front : List DerivedVariable) (d : DerivedVariable) (v : View) :
    onDemand (front ++ [d]) v = (onDemand front v).derive d := by
  rw [onDemand, onDemand, List.foldl_concat]

end View

namespace Store

variable {derived : List DerivedVariable} {s t : Store} {id : VariableId} {value : Value}

/-! ## The other variables -/

/-- The store without the slots of derived variables. -/
def without (derived : List DerivedVariable) (s : Store) : Store :=
  { s with slots := s.slots.filter fun slot => slot.id ∉ derived.map (·.id) }

theorem slot?_without (hid : id ∉ derived.map (·.id)) :
    (s.without derived).slot? id = s.slot? id := by
  rw [slot?, slot?, without, List.find?_filter]
  congr 1
  funext slot
  by_cases hslot : slot.id = id
  · rw [hslot]
    simpa using hid
  · simp [hslot]

theorem get_without (hid : id ∉ derived.map (·.id)) :
    (s.without derived).get id = s.get id :=
  get_congr (slot?_without hid)

theorem without_write (s : Store) (id : VariableId) (value : Value) :
    (s.write id value).without derived = (s.without derived).write id value := by
  have hid (slot : Slot) :
      (if slot.id = id then { slot with value } else slot : Slot).id = slot.id := by
    split <;> rfl
  rw [without, write, without, write, List.filter_map]
  congr 3
  funext slot
  simp only [Function.comp, hid]

theorem without_write_of_mem (hid : id ∈ derived.map (·.id)) :
    (s.write id value).without derived = s.without derived := by
  have hslots : ((s.without derived).slots.map fun slot =>
      if slot.id = id then { slot with value } else slot) =
      (s.without derived).slots.map fun slot => slot := by
    apply List.map_congr_left
    intro slot hslot
    have hnotMem := (List.mem_filter.1 hslot).2
    have hne : slot.id ≠ id := by
      intro heq
      rw [heq, decide_eq_true_eq] at hnotMem
      exact hnotMem hid
    rw [if_neg hne]
  rw [without_write, write, hslots, List.map_id']

theorem without_refreshed (h : s.Declares derived) :
    (s.refreshed derived).without derived = s.without derived := by
  suffices ∀ rest, rest ⊆ derived → s.Declares rest →
      (s.refreshed rest).without derived = s.without derived from
    this derived (List.Subset.refl _) h
  intro rest hsub hrest
  induction rest generalizing s with
  | nil => rfl
  | cons d rest ih =>
      have hd : d.id ∈ derived.map (·.id) := List.mem_map_of_mem (hsub List.mem_cons_self)
      have hdeclares : (s.settle d).Declares derived :=
        h.of_cleared (hrest.cleared_settle List.mem_cons_self).symm
      rw [hrest.writable.refreshed_cons,
        ih hdeclares (List.Subset.trans (List.subset_cons_self d rest) hsub) hrest.settle,
        settle, without_write_of_mem hd]

/-! ## Settled stores -/

/-- What a store holds, a view of the other variables answers: by induction on the variables
declared so far, since a recipe reads nothing that is declared after it. -/
theorem get_eq_onDemand_of_append {front back : List DerivedVariable}
    (hsettled : s.Settled (front ++ back)) (hordered : s.Ordered (front ++ back))
    (hid : id ∉ back.map (·.id)) :
    s.get id = View.onDemand front (s.without (front ++ back)).get id := by
  induction front using List.reverseRecOn generalizing back id with
  | nil => exact (get_without hid).symm
  | append_singleton front d ih =>
      rw [List.append_assoc, List.singleton_append] at hsettled hordered ⊢
      rw [View.onDemand_concat, View.derive]
      have hd : d ∈ front ++ d :: back := List.mem_append_right front List.mem_cons_self
      by_cases heq : id = d.id
      · rw [if_pos heq, heq, hsettled d hd]
        congr 1
        refine (Recipe.valueIn_congr fun other hother => ?_).symm
        exact (ih hsettled hordered (hordered.notMem_of_mem_dependencies hother)).symm
      · rw [if_neg heq]
        apply ih hsettled hordered
        rw [List.map_cons, List.mem_cons, not_or]
        exact ⟨heq, hid⟩

theorem Settled.get_eq (hsettled : s.Settled derived) (hordered : s.Ordered derived) :
    s.get = View.onDemand derived (s.without derived).get := by
  funext id
  have h : s.Settled (derived ++ []) → s.Ordered (derived ++ []) →
      s.get id = View.onDemand derived (s.without (derived ++ [])).get id :=
    fun hsettled hordered => get_eq_onDemand_of_append hsettled hordered List.not_mem_nil
  rw [List.append_nil] at h
  exact h hsettled hordered

/-- What is read after a refresh is computed from the other variables. -/
theorem get_refreshed (h : s.Declares derived) (hordered : s.Ordered derived) :
    (s.refreshed derived).get = View.onDemand derived (s.without derived).get := by
  rw [(settled_refreshed h hordered).get_eq ((ordered_refreshed h).2 hordered),
    without_refreshed h]

/-! ## Stores with given values -/

/-- The store with the values that a view answers. -/
def holding (v : View) (s : Store) : Store :=
  { s with slots := s.slots.map fun slot =>
      match v slot.id with
      | .ok value => { slot with value }
      | .error _ => slot }

/-- A store is what any store that differs in values only becomes with its values. -/
theorem eq_holding (hnodup : t.ids.Nodup) (hcleared : t.cleared = s.cleared) :
    t = s.holding t.get := by
  have hslots : t.cleared.slots = s.cleared.slots := congrArg slots hcleared
  have hlength : t.slots.length = s.slots.length := by
    simpa [cleared] using congrArg List.length hslots
  have hheld : t.slots = s.slots.map fun slot =>
      match t.get slot.id with
      | .ok value => { slot with value }
      | .error _ => slot := by
    apply List.ext_getElem
    · rw [List.length_map, hlength]
    · intro i hi hi'
      have hs : i < s.slots.length := hlength ▸ hi
      have hsame : t.cleared.slots[i]? = s.cleared.slots[i]? := by rw [hslots]
      have hslot := slot?_of_mem hnodup (List.getElem_mem hi)
      simp only [cleared, List.getElem?_map, List.getElem?_eq_getElem hi,
        List.getElem?_eq_getElem hs, Option.map_some, Option.some.injEq, Slot.mk.injEq] at hsame
      obtain ⟨hid, -, hconstant⟩ := hsame
      rw [List.getElem_map, ← hid, get_of_slot? hslot]
      show t.slots[i] = ⟨t.slots[i].id, t.slots[i].value, s.slots[i].constant⟩
      rw [← hconstant]
  calc
    t = ⟨t.slots, t.cleared.names, t.cleared.nextId⟩ := rfl
    _ = ⟨t.slots, s.cleared.names, s.cleared.nextId⟩ := by rw [hcleared]
    _ = s.holding t.get := congrArg (Store.mk · s.names s.nextId) hheld

end Store

end Panel
