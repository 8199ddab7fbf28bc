import Mathlib.Algebra.Group.Nat.Defs
import Mathlib.Data.List.Perm.Subperm
import Mathlib.Logic.Function.Iterate
import Panel.Proofs.Store.Write

/-!
# New names

The search for the name of a new slot goes round the names from one upwards.  The names that it
tries are all different until it is back where it began, so that it comes to one that no slot has
unless all of them are taken.
-/

namespace Panel.Store

variable {s : Store} {taken : List VariableId} {n : UInt32} {fuel i j : Nat}
  {value : Value}

/-! ## The search -/

theorem toNat_successor (n : UInt32) :
    (successor n).toNat = if n.toNat + 1 = 2 ^ 32 then 1 else n.toNat + 1 := by
  have hlt := n.toNat_lt
  have hnext : (n + 1).toNat = (n.toNat + 1) % 2 ^ 32 := UInt32.toNat_add n 1
  have hzero : n + 1 = 0 ↔ n.toNat + 1 = 2 ^ 32 := by
    rw [← UInt32.toNat_inj, hnext, UInt32.toNat_zero]
    omega
  unfold successor
  by_cases hwrap : n.toNat + 1 = 2 ^ 32
  · rw [if_pos (hzero.2 hwrap), if_pos hwrap]
    rfl
  · rw [if_neg (mt hzero.1 hwrap), if_neg hwrap, hnext]
    omega

theorem successor_ne_zero (n : UInt32) : successor n ≠ 0 := by
  intro h
  have hsuccessor := toNat_successor n
  rw [h, UInt32.toNat_zero] at hsuccessor
  split at hsuccessor <;> omega

/-- Names from one on are gone through in a circle. -/
theorem toNat_iterate_successor (hn : n ≠ 0) (i : Nat) :
    (successor^[i] n).toNat = (n.toNat - 1 + i) % (2 ^ 32 - 1) + 1 := by
  have hpos : n.toNat ≠ 0 := fun h => hn (UInt32.toNat_inj.1 h)
  have hlt := n.toNat_lt
  induction i with
  | zero =>
      rw [Function.iterate_zero_apply]
      omega
  | succ i ih =>
      rw [Function.iterate_succ_apply', toNat_successor, ih]
      split <;> omega

theorem iterate_successor_inj (hn : n ≠ 0) (hi : i < 2 ^ 32 - 1) (hj : j < 2 ^ 32 - 1)
    (h : successor^[i] n = successor^[j] n) : i = j := by
  have hnumbers := congrArg UInt32.toNat h
  rw [toNat_iterate_successor hn, toNat_iterate_successor hn] at hnumbers
  omega

/-- More names are tried than are taken. -/
theorem exists_free (hn : n ≠ 0) (hroom : taken.length + 1 < 2 ^ 32) :
    ∃ i ≤ taken.length, (⟨successor^[i] n⟩ : VariableId) ∉ taken := by
  by_contra hnone
  push Not at hnone
  let tried := (List.range (taken.length + 1)).map fun i => (⟨successor^[i] n⟩ : VariableId)
  have hnodup : tried.Nodup := by
    refine List.Nodup.map_on (fun i hi j hj hij => ?_) List.nodup_range
    rw [List.mem_range] at hi hj
    exact iterate_successor_inj hn (by omega) (by omega) (congrArg VariableId.number hij)
  have hsubset : tried ⊆ taken := by
    intro id hid
    obtain ⟨i, hi, rfl⟩ := List.mem_map.1 hid
    rw [List.mem_range] at hi
    exact hnone i (by omega)
  have hlength := (List.subperm_of_subset hnodup hsubset).length_le
  rw [List.length_map, List.length_range] at hlength
  omega

theorem firstFree_notMem (h : ∃ i ≤ fuel, (⟨successor^[i] n⟩ : VariableId) ∉ taken) :
    (⟨firstFree taken fuel n⟩ : VariableId) ∉ taken := by
  induction fuel generalizing n with
  | zero =>
      obtain ⟨i, hi, hfree⟩ := h
      obtain rfl := Nat.le_zero.1 hi
      exact hfree
  | succ fuel ih =>
      rw [firstFree]
      split
      · next htaken =>
          apply ih
          obtain ⟨i, hi, hfree⟩ := h
          cases i with
          | zero => exact absurd htaken hfree
          | succ i => exact ⟨i, by omega, hfree⟩
      · assumption

theorem firstFree_ne_zero (hn : n ≠ 0) : firstFree taken fuel n ≠ 0 := by
  induction fuel generalizing n with
  | zero => exact hn
  | succ fuel ih =>
      rw [firstFree]
      split
      · exact ih (successor_ne_zero n)
      · exact hn

/-! ## Allocation -/

theorem nextId_allocate (s : Store) : s.allocate.2.nextId ≠ 0 :=
  successor_ne_zero _

/-- Zero is never given away. -/
theorem allocate_ne_zero (h : s.nextId ≠ 0) : s.allocate.1.number ≠ 0 :=
  firstFree_ne_zero h

/-- A new name is new, as long as not all names are taken. -/
theorem allocate_notMem (h : s.nextId ≠ 0) (hroom : s.size + 1 < 2 ^ 32) :
    s.allocate.1 ∉ s.ids := by
  have hlength : s.ids.length = s.size := List.length_map _
  apply firstFree_notMem
  rw [← hlength] at hroom ⊢
  exact exists_free h hroom

theorem ids_push (s : Store) (slot : Slot) : (s.push slot).ids = s.ids ++ [slot.id] :=
  List.map_append

theorem declare_of_some {id : VariableId} (h : s.interned? value = some id) :
    s.declare value = (id, s) := by
  rw [declare, h]

theorem declare_of_none (h : s.interned? value = none) :
    s.declare value = (s.allocate.1, s.allocate.2.push ⟨s.allocate.1, value, true⟩) := by
  rw [declare, h]

/-- The constant that is found for a value holds it. -/
theorem mem_slots_of_interned? {id : VariableId} (h : s.interned? value = some id) :
    (⟨id, value, true⟩ : Slot) ∈ s.slots := by
  obtain ⟨⟨_, held, constant⟩, hfound, rfl⟩ := Option.map_eq_some_iff.1 h
  obtain ⟨rfl, rfl⟩ : constant = true ∧ held = value := by simpa using List.find?_some hfound
  exact List.mem_of_find?_eq_some hfound

theorem notMem_slots_of_interned? (h : s.interned? value = none) (id : VariableId) :
    (⟨id, value, true⟩ : Slot) ∉ s.slots := by
  intro hslot
  have hmiss := List.find?_eq_none.1 (Option.map_eq_none_iff.1 h) _ hslot
  simp at hmiss

theorem size_lt_push (s : Store) (slot : Slot) : s.size < (s.allocate.2.push slot).size := by
  show s.slots.length < (s.slots ++ [slot]).length
  rw [List.length_append]
  exact Nat.lt_succ_self _

end Panel.Store
