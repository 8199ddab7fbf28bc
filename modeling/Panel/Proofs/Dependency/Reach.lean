import Mathlib.Data.Finset.Card
import Mathlib.Data.List.Dedup
import Mathlib.Data.List.Sort
import Mathlib.Logic.Relation
import Panel.Dependency
import Panel.Proofs.Derived.Reading

/-!
# What is computed from a variable

`DependencyIndex.reach` finds exactly what can be reached by going from variables to the derived
variables that read them.  The search has as many steps as it may need: every step takes a variable
off the queue, and a variable joins the queue only as a derived one that was not seen before.
-/

namespace Panel.DependencyIndex

variable {index : DependencyIndex} {id other : VariableId} {queue seen : List VariableId}
  {steps : Nat}

theorem mem_readersOf :
    other ∈ index.readersOf id ↔ ∃ reads, (other, reads) ∈ index.derived ∧ id ∈ reads := by
  simp [readersOf]

/-- A variable and one that is computed from it, directly or not. -/
def Reaches (index : DependencyIndex) : VariableId → VariableId → Prop :=
  Relation.ReflTransGen fun id reader => reader ∈ index.readersOf id

/-- The number of derived variables that have not been seen. -/
def unseen (index : DependencyIndex) (seen : List VariableId) : Nat :=
  ((index.derived.map (·.1)).toFinset \ seen.toFinset).card

/-- The readers of a variable that have not been seen. -/
def fresh (index : DependencyIndex) (id : VariableId) (seen : List VariableId) : List VariableId :=
  ((index.readersOf id).foldl VariableId.addTo []).filter (· ∉ seen)

theorem spread_cons :
    index.spread (steps + 1) (id :: queue) seen =
      index.spread steps (queue ++ index.fresh id seen) (seen ++ index.fresh id seen) := rfl

theorem mem_fresh : other ∈ index.fresh id seen ↔ other ∈ index.readersOf id ∧ other ∉ seen := by
  simp [fresh, VariableId.mem_foldl_addTo]

theorem nodup_fresh : (index.fresh id seen).Nodup :=
  (VariableId.nodup_foldl_addTo List.nodup_nil).filter _

theorem unseen_append_fresh (index : DependencyIndex) (id : VariableId) (seen : List VariableId) :
    index.unseen (seen ++ index.fresh id seen) + (index.fresh id seen).length =
      index.unseen seen := by
  have hsub : (index.fresh id seen).toFinset ⊆
      (index.derived.map (·.1)).toFinset \ seen.toFinset := by
    intro other hother
    obtain ⟨hreader, hunseen⟩ := mem_fresh.1 (List.mem_toFinset.1 hother)
    obtain ⟨reads, hmem, -⟩ := mem_readersOf.1 hreader
    rw [Finset.mem_sdiff, List.mem_toFinset, List.mem_toFinset]
    exact ⟨List.mem_map_of_mem hmem, hunseen⟩
  have hsplit (a b c : Finset VariableId) : a \ (b ∪ c) = (a \ b) \ c := sdiff_sdiff_left.symm
  rw [unseen, unseen, List.toFinset_append, hsplit, ← List.toFinset_card_of_nodup nodup_fresh]
  exact Finset.card_sdiff_add_card_eq_card hsub

/-! ## The search -/

/-- Nothing is found but what can be reached from what was seen before. -/
theorem spread_induction {P : VariableId → Prop}
    (hstep : ∀ id reader, P id → reader ∈ index.readersOf id → P reader)
    (hqueue : ∀ id ∈ queue, P id) (hseen : ∀ id ∈ seen, P id) :
    ∀ id ∈ index.spread steps queue seen, P id := by
  induction steps generalizing queue seen with
  | zero => exact hseen
  | succ steps ih =>
      cases queue with
      | nil => exact hseen
      | cons id queue =>
          have hfresh : ∀ other ∈ index.fresh id seen, P other := by
            intro other hother
            exact hstep id other (hqueue id List.mem_cons_self) (mem_fresh.1 hother).1
          rw [spread_cons]
          apply ih
          · refine List.forall_mem_append.2 ⟨fun other hother => ?_, hfresh⟩
            exact hqueue other (.tail id hother)
          · exact List.forall_mem_append.2 ⟨hseen, hfresh⟩

theorem subset_spread : seen ⊆ index.spread steps queue seen := by
  induction steps generalizing queue seen with
  | zero => exact List.Subset.refl seen
  | succ steps ih =>
      cases queue with
      | nil => exact List.Subset.refl seen
      | cons id queue => exact List.Subset.trans (List.subset_append_left _ _) ih

/-- The search leaves no reader out, since whoever was seen and still has readers that were not is
waiting in the queue. -/
theorem readersOf_subset_spread (hsteps : queue.length + index.unseen seen ≤ steps)
    (hwaiting : ∀ id ∈ seen, id ∈ queue ∨ index.readersOf id ⊆ seen) :
    ∀ id ∈ index.spread steps queue seen,
      index.readersOf id ⊆ index.spread steps queue seen := by
  induction steps generalizing queue seen with
  | zero =>
      obtain rfl : queue = [] := List.length_eq_zero_iff.1 (by omega)
      intro id hid
      exact (hwaiting id hid).resolve_left List.not_mem_nil
  | succ steps ih =>
      cases queue with
      | nil =>
          intro id hid
          exact (hwaiting id hid).resolve_left List.not_mem_nil
      | cons first queue =>
          rw [spread_cons]
          have hunseen := index.unseen_append_fresh first seen
          apply ih
          · rw [List.length_append]
            rw [List.length_cons] at hsteps
            omega
          · intro id hid
            rcases List.mem_append.1 hid with hid | hid
            · rcases hwaiting id hid with hqueue | hreaders
              · rcases List.mem_cons.1 hqueue with rfl | hqueue
                -- the first of the queue has just had its unseen readers added
                · right
                  intro reader hreader
                  by_cases hmem : reader ∈ seen
                  · exact List.mem_append_left _ hmem
                  · exact List.mem_append_right _ (mem_fresh.2 ⟨hreader, hmem⟩)
                · exact .inl (List.mem_append_left _ hqueue)
              · exact .inr (List.Subset.trans hreaders (List.subset_append_left _ _))
            · exact .inl (List.mem_append_right _ hid)

theorem unseen_le (seen : List VariableId) : index.unseen seen ≤ index.derived.length :=
  calc
    index.unseen seen ≤ (index.derived.map (·.1)).toFinset.card :=
      Finset.card_le_card Finset.sdiff_subset
    _ ≤ (index.derived.map (·.1)).length := List.toFinset_card_le _
    _ = index.derived.length := List.length_map _

theorem mem_reach_iff : other ∈ index.reach id ↔ index.Reaches id other := by
  constructor
  · intro hother
    apply spread_induction (P := index.Reaches id) _ _ _ other hother
    · intro found reader hfound hreader
      exact hfound.tail hreader
    · simp [Reaches, Relation.ReflTransGen.refl]
    · simp [Reaches, Relation.ReflTransGen.refl]
  · intro hreaches
    have hclosed : ∀ found ∈ index.reach id, index.readersOf found ⊆ index.reach id := by
      apply readersOf_subset_spread
      · have hle := index.unseen_le [id]
        rw [List.length_singleton]
        omega
      · exact fun found hfound => .inl hfound
    induction hreaches with
    | refl => exact subset_spread (List.mem_singleton.2 rfl)
    | tail _ hreader ih => exact hclosed _ ih hreader

/-! ## Components -/

/-- The components that depend on a variable mention something that is computed from it. -/
theorem mem_affected_iff {i : Nat} :
    i ∈ index.affected id ↔ ∃ mentioned, index.mentions[i]? = some mentioned ∧
      ∃ other ∈ mentioned, index.Reaches id other := by
  simp only [affected, List.mem_filter, List.mem_range, List.any_eq_true, decide_eq_true_eq,
    mem_reach_iff, List.getD_eq_getElem?_getD]
  constructor
  · intro ⟨hi, hfound⟩
    rw [List.getElem?_eq_getElem hi] at hfound
    exact ⟨_, List.getElem?_eq_getElem hi, hfound⟩
  · intro ⟨mentioned, hmentioned, hfound⟩
    obtain ⟨hi, -⟩ := List.getElem?_eq_some_iff.1 hmentioned
    rw [hmentioned]
    exact ⟨hi, hfound⟩

theorem sortedLT_affected (index : DependencyIndex) (id : VariableId) :
    (index.affected id).SortedLT :=
  (List.pairwise_lt_range.filter _).sortedLT

/-- The components that depend on some variables mention something that is computed from them. -/
theorem mem_affectedBy_iff {ids : List VariableId} {i : Nat} :
    i ∈ index.affectedBy ids ↔ ∃ id ∈ ids, ∃ mentioned, index.mentions[i]? = some mentioned ∧
      ∃ other ∈ mentioned, index.Reaches id other := by
  simp only [affectedBy, List.mem_filter, List.mem_range, List.any_map, List.any_eq_true,
    Function.comp, decide_eq_true_eq, mem_affected_iff]
  constructor
  · exact fun h => h.2
  · intro ⟨id, hid, mentioned, hmentioned, hfound⟩
    exact ⟨(List.getElem?_eq_some_iff.1 hmentioned).1, id, hid, mentioned, hmentioned, hfound⟩

theorem sortedLT_affectedBy (index : DependencyIndex) (ids : List VariableId) :
    (index.affectedBy ids).SortedLT :=
  (List.pairwise_lt_range.filter _).sortedLT

theorem mem_affectedBy {ids : List VariableId} {i : Nat} :
    i ∈ index.affectedBy ids ↔ ∃ id ∈ ids, i ∈ index.affected id := by
  simp only [mem_affectedBy_iff, mem_affected_iff]

end Panel.DependencyIndex
