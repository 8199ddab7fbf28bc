import Mathlib.Data.List.Nodup
import Panel.Store

/-!
# Reading after writing

A write changes what is read of one variable and nothing else.  `Store.cleared` forgets the values
of a store and keeps everything that no write changes: the slots with their kinds and their order,
the constants, and the names that the host knows.
-/

namespace Panel

theorem Value.kind_default (kind : Kind) : (Value.default kind).kind = kind := by
  cases kind <;> rfl

namespace Store

variable {s t : Store} {id other : VariableId} {value old : Value} {slot : Slot}

theorem id_of_slot? (h : s.slot? id = some slot) : slot.id = id := by
  simpa using List.find?_some h

theorem mem_slots_of_slot? (h : s.slot? id = some slot) : slot ∈ s.slots :=
  List.mem_of_find?_eq_some h

theorem slot?_eq_none_iff : s.slot? id = none ↔ id ∉ s.ids := by
  simp [slot?, ids]

theorem slot?_of_mem (hnodup : s.ids.Nodup) (hslot : slot ∈ s.slots) :
    s.slot? slot.id = some slot := by
  cases hfound : s.slot? slot.id with
  | none => exact absurd (List.mem_map_of_mem hslot) (slot?_eq_none_iff.1 hfound)
  | some found =>
      have hid := id_of_slot? hfound
      rw [List.inj_on_of_nodup_map hnodup (mem_slots_of_slot? hfound) hslot hid]

theorem get_eq_ok_iff :
    s.get id = .ok value ↔ ∃ slot, s.slot? id = some slot ∧ slot.value = value := by
  unfold get
  cases s.slot? id <;> simp

theorem get_of_slot? (h : s.slot? id = some slot) : s.get id = .ok slot.value := by
  rw [get, h]

theorem get_congr (h : s.slot? id = t.slot? id) : s.get id = t.get id := by
  rw [get, get, h]

/-! ## One write -/

theorem slot?_write_self (h : s.slot? id = some slot) :
    (s.write id value).slot? id = some { slot with value } := by
  have hid := id_of_slot? h
  have hsame : (fun slot : Slot => decide (slot.id = id)) ∘
      (fun slot : Slot => if slot.id = id then { slot with value } else slot) =
      fun slot => decide (slot.id = id) := by
    funext slot
    by_cases hslot : slot.id = id <;> simp [hslot]
  rw [slot?] at h
  rw [slot?, write, List.find?_map, hsame, h, Option.map_some, if_pos hid]

theorem slot?_write_of_ne (h : other ≠ id) : (s.write id value).slot? other = s.slot? other := by
  have hsame : (fun slot : Slot => decide (slot.id = other)) ∘
      (fun slot : Slot => if slot.id = id then { slot with value } else slot) =
      fun slot => decide (slot.id = other) := by
    funext slot
    by_cases hslot : slot.id = id <;> simp [hslot]
  rw [slot?, slot?, write, List.find?_map, hsame]
  cases hfound : s.slots.find? fun slot => decide (slot.id = other) with
  | none => rfl
  | some slot =>
      have hslot : slot.id = other := by simpa using List.find?_some hfound
      rw [Option.map_some, if_neg (by rwa [hslot])]

theorem get_write_self (h : s.slot? id = some slot) : (s.write id value).get id = .ok value :=
  get_of_slot? (slot?_write_self h)

theorem get_write_of_ne (h : other ≠ id) : (s.write id value).get other = s.get other :=
  get_congr (slot?_write_of_ne h)

/-- Writing the value that is there changes nothing. -/
theorem write_eq_self (hnodup : s.ids.Nodup) (h : s.get id = .ok value) : s.write id value = s := by
  obtain ⟨slot, hslot, rfl⟩ := get_eq_ok_iff.1 h
  have hslots : (s.slots.map fun other : Slot =>
      if other.id = id then { other with value := slot.value } else other) =
      s.slots.map fun other => other := by
    apply List.map_congr_left
    intro other hother
    by_cases hid : other.id = id
    · have hsame := slot?_of_mem hnodup hother
      rw [hid, hslot] at hsame
      rw [if_pos hid, Option.some.inj hsame]
    · rw [if_neg hid]
  rw [write, hslots, List.map_id']

/-- A variable is written exactly if it is there, is not a constant and has the kind of the
value. -/
theorem set_eq_ok {changed : Bool} :
    s.set id value = .ok (changed, t) ↔ ∃ old, s.slot? id = some ⟨id, old, false⟩ ∧
      old.kind = value.kind ∧ changed = !old.agrees value ∧ t = s.write id value := by
  unfold set
  cases hslot : s.slot? id with
  | none => simp
  | some slot =>
      obtain ⟨slotId, old, constant⟩ := slot
      obtain rfl : slotId = id := id_of_slot? hslot
      cases constant
      · by_cases hkind : old.kind = value.kind
        · simp [hkind, eq_comm]
        · simp [hkind]
      · simp

/-! ## What writing keeps -/

/-- The store with every value back at the default of its kind. -/
def cleared (s : Store) : Store :=
  { s with slots := s.slots.map fun slot => { slot with value := .default slot.value.kind } }

theorem ids_cleared (s : Store) : s.cleared.ids = s.ids := by
  simp [cleared, ids]

theorem slot?_cleared (s : Store) (id : VariableId) :
    s.cleared.slot? id =
      (s.slot? id).map fun slot => { slot with value := .default slot.value.kind } := by
  rw [slot?, cleared, List.find?_map]
  rfl

theorem ids_eq_of_cleared (h : s.cleared = t.cleared) : s.ids = t.ids := by
  rw [← ids_cleared, h, ids_cleared]

/-- Stores that differ in values only hold values of the same kinds. -/
theorem exists_slot?_of_cleared (h : s.cleared = t.cleared) {constant : Bool}
    (hslot : s.slot? id = some ⟨id, old, constant⟩) :
    ∃ new, t.slot? id = some ⟨id, new, constant⟩ ∧ new.kind = old.kind := by
  have hcleared := slot?_cleared s id
  rw [h, slot?_cleared, hslot] at hcleared
  obtain ⟨⟨newId, new, newConstant⟩, hnew, heq⟩ := Option.map_eq_some_iff.1 hcleared
  obtain ⟨rfl, hkind, rfl⟩ := by simpa using heq
  refine ⟨new, hnew, ?_⟩
  rw [← Value.kind_default new.kind, hkind, Value.kind_default]

theorem cleared_write (hnodup : s.ids.Nodup) (hslot : s.slot? id = some slot)
    (hkind : slot.value.kind = value.kind) : (s.write id value).cleared = s.cleared := by
  have hslots : ∀ other ∈ s.slots,
      (if other.id = id then { other with value } else other : Slot).value.kind =
        other.value.kind := by
    intro other hother
    split
    · next hid =>
        have hsame := slot?_of_mem hnodup hother
        rw [hid, hslot] at hsame
        rw [← Option.some.inj hsame, hkind]
    · rfl
  have hids : ∀ other : Slot,
      (if other.id = id then { other with value } else other : Slot).id = other.id ∧
        (if other.id = id then { other with value } else other : Slot).constant =
          other.constant := by
    intro other
    split <;> exact ⟨rfl, rfl⟩
  rw [cleared, cleared, write, List.map_map]
  congr 1
  apply List.map_congr_left
  intro other hother
  simp [Function.comp, hslots other hother, hids other]

/-- Lists are as they were when something else is written. -/
theorem getList_write (hslot : s.slot? id = some slot) (hkind : slot.value.kind = value.kind)
    (hlist : value.kind ≠ .list) (other : VariableId) :
    (s.write id value).getList other = s.getList other := by
  by_cases hid : other = id
  · subst hid
    rw [getList, getList, get_write_self hslot, get_of_slot? hslot]
    cases value <;> cases hold : slot.value <;> simp_all [Value.kind, bind, Except.bind]
  · rw [getList, getList, get_write_of_ne hid]

end Store

end Panel
