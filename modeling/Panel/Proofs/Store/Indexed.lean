import Panel.Proofs.Content.Declared
import Panel.Proofs.Store.Allocation
import Panel.Proofs.Wire.Code
import Panel.Store.Indexed

/-!
# The store with an index does what the store does

The tables are consistent with the slots if the index has each name at its position and nowhere
else, and the table of constants has each constant under its key and nothing else.  A call on a
consistent store with room for a slot comes to an end, gives the answer of the same call on the
store without tables, leaves the slots of that store, and leaves the tables consistent.
-/

namespace Panel

/-! ## Keys -/

/-- Different values have different keys. -/
theorem Value.internKey_injective : Function.Injective internKey := by
  intro v w h
  cases v <;> cases w <;> simp only [internKey, reduceCtorEq] at h
  case int.int v w =>
      rw [InternKey.int.inj h]
  case float.float v w =>
      have hbits := congrArg Single.mk (InternKey.float.inj h)
      exact congrArg float hbits
  case text.text v w =>
      rw [InternKey.text.inj h]
  case color.color v w =>
      have hwords := congrArg Color.ofWord (InternKey.color.inj h)
      rw [Color.ofWord_toWord, Color.ofWord_toWord] at hwords
      rw [hwords]
  case list.list v w =>
      have hitems := congrArg (List.map VariableId.mk) (InternKey.list.inj h)
      rw [VariableId.map_mk_map_number, VariableId.map_mk_map_number] at hitems
      rw [hitems]

namespace Store

variable {s t : Store} {id : VariableId} {value : Value} {slot : Slot} {i : Nat}

theorem mem_slots_iff (hnodup : s.ids.Nodup) : slot ∈ s.slots ↔ s.slot? slot.id = some slot :=
  ⟨slot?_of_mem hnodup, mem_slots_of_slot?⟩

theorem getElem?_ids_eq_some_iff :
    s.ids[i]? = some id ↔ ∃ slot, s.slots[i]? = some slot ∧ slot.id = id := by
  rw [ids, List.getElem?_map, Option.map_eq_some_iff]

theorem getElem?_concat_eq_some_iff {α : Type} {l : List α} {a b : α} :
    (l ++ [a])[i]? = some b ↔ l[i]? = some b ∨ i = l.length ∧ a = b := by
  rcases Nat.lt_trichotomy i l.length with hlt | rfl | hgt
  · rw [List.getElem?_append_left hlt, or_iff_left fun h => Nat.ne_of_lt hlt h.1]
  · simp
  · rw [List.getElem?_eq_none (Nat.le_of_lt hgt), List.getElem?_eq_none]
    · exact iff_of_false nofun fun h => h.elim nofun fun h => Nat.ne_of_gt hgt h.1
    · rwa [List.length_append, List.length_singleton]

theorem ids_write (s : Store) (id : VariableId) (value : Value) :
    (s.write id value).ids = s.ids := by
  rw [ids, ids, write, List.map_map]
  apply List.map_congr_left
  intro slot _
  show (if slot.id = id then ({ slot with value } : Slot) else slot).id = slot.id
  split <;> rfl

/-- A write replaces one slot. -/
theorem slots_write (hnodup : s.ids.Nodup) (hslot : s.slots[i]? = some slot) (value : Value) :
    (s.write slot.id value).slots = s.slots.set i { slot with value } := by
  apply List.ext_getElem?
  intro j
  rw [write, List.getElem?_map, List.getElem?_set]
  by_cases hij : i = j
  · subst hij
    have hlength := (List.getElem?_eq_some_iff.1 hslot).1
    rw [hslot, if_pos rfl, if_pos hlength, Option.map_some, if_pos rfl]
  · rw [if_neg hij]
    cases hother : s.slots[j]? with
    | none => rfl
    | some other =>
        have hne : other.id ≠ slot.id := by
          intro hid
          have hi := getElem?_ids_eq_some_iff.2 ⟨slot, hslot, rfl⟩
          have hj := getElem?_ids_eq_some_iff.2 ⟨other, hother, hid⟩
          have hbound := (List.getElem?_eq_some_iff.1 hi).1
          exact hij ((List.getElem?_inj hbound hnodup).1 (hi.trans hj.symm))
        rw [Option.map_some, if_neg hne]

/-- A write to a variable leaves the constants. -/
theorem constant_mem_write {old : Value} {other : VariableId} {held : Value}
    (hnodup : s.ids.Nodup) (hslot : s.slot? id = some ⟨id, old, false⟩) :
    (⟨other, held, true⟩ : Slot) ∈ (s.write id value).slots ↔ ⟨other, held, true⟩ ∈ s.slots := by
  have hnodup' : (s.write id value).ids.Nodup := by rwa [ids_write]
  rw [mem_slots_iff hnodup, mem_slots_iff hnodup']
  by_cases hid : other = id
  · subst hid
    rw [hslot, slot?_write_self hslot]
    simp
  · rw [slot?_write_of_ne hid]

end Store

namespace IndexedStore

variable {s t : IndexedStore} {id : VariableId} {value : Value} {slot : Slot} {n : UInt32}
  {fuel : Nat}

/-! ## The search for a name -/

theorem search_of_free (h : s.contains ⟨n⟩ = false) : s.search n = .some n := by
  apply Part.eq_some_iff.2
  apply PFun.fix_stop
  rw [h]
  exact Part.mem_some _

theorem search_of_taken (h : s.contains ⟨n⟩ = true) :
    s.search n = s.search (Store.successor n) := by
  apply PFun.fix_fwd_eq
  rw [h]
  exact Part.mem_some _

/-! ## What a declaration has done -/

theorem allocate_eq_some (h : s.allocate = .some (id, t)) :
    id.number ∈ s.search s.nextId ∧ t = { s with nextId := Store.successor id.number } := by
  rw [allocate, Part.bind_eq_bind, Part.bind_eq_some_iff] at h
  obtain ⟨n, hsearch, heq⟩ := h
  cases Part.some_inj.1 heq
  exact ⟨Part.eq_some_iff.1 hsearch, rfl⟩

theorem declare_cases (h : s.declare value = .some (id, t)) :
    (s.interned.lookup value.internKey = some id ∧ t = s) ∨
      ∃ u, s.allocate = .some (id, u) ∧
        t = { u.push ⟨id, value, true⟩ with
          interned := u.interned.insert value.internKey id } := by
  rw [declare] at h
  cases hlookup : s.interned.lookup value.internKey with
  | some found =>
      rw [hlookup] at h
      cases Part.some_inj.1 h
      exact .inl ⟨rfl, rfl⟩
  | none =>
      rw [hlookup, Part.bind_eq_bind, Part.bind_eq_some_iff] at h
      obtain ⟨⟨_, u⟩, hallocate, heq⟩ := h
      cases Part.some_inj.1 heq
      exact .inr ⟨u, hallocate, rfl⟩

theorem declareMutable_eq_some (h : s.declareMutable value = .some (id, t)) :
    ∃ u, s.allocate = .some (id, u) ∧ t = u.push ⟨id, value, false⟩ := by
  rw [declareMutable, Part.bind_eq_bind, Part.bind_eq_some_iff] at h
  obtain ⟨⟨_, u⟩, hallocate, heq⟩ := h
  cases Part.some_inj.1 heq
  exact ⟨u, hallocate, rfl⟩

/-! ## Positions -/

/-- The index has each name at its position, and nowhere else. -/
structure Located (s : IndexedStore) : Prop where
  ids : s.ids.Nodup
  index : ∀ id i, s.index.lookup id = some i ↔ s.ids[i]? = some id

namespace Located

theorem contains_iff (h : s.Located) : s.contains id = true ↔ id ∈ s.ids := by
  rw [IndexedStore.contains, Option.isSome_iff_exists, List.mem_iff_getElem?]
  exact exists_congr (h.index id)

theorem contains_eq (h : s.Located) (id : VariableId) : s.contains id = s.toStore.contains id :=
  Bool.eq_iff_iff.2 (h.contains_iff.trans Store.contains_eq_true_iff.symm)

/-- What leaves the names in place leaves them where the index has them. -/
theorem of_ids {store : Store} (h : s.Located) (hids : store.ids = s.ids) :
    ({ s with toStore := store } : IndexedStore).Located where
  ids := hids ▸ h.ids
  index := by
    show ∀ id i, s.index.lookup id = some i ↔ store.ids[i]? = some id
    rw [hids]
    exact h.index

theorem push (h : s.Located) (hid : slot.id ∉ s.ids) : (s.push slot).Located := by
  have hlength : s.ids.length = s.slots.length := List.length_map _
  have hids : (s.push slot).ids = s.ids ++ [slot.id] := Store.ids_push s.toStore slot
  refine ⟨?_, fun id i => ?_⟩
  · rw [hids, ← List.concat_eq_append]
    exact h.ids.concat hid
  · rw [hids, Store.getElem?_concat_eq_some_iff, hlength]
    show (s.index.insert slot.id s.slots.length).lookup id = some i ↔ _
    by_cases hsame : id = slot.id
    · subst hsame
      rw [AList.lookup_insert, Option.some.injEq,
        or_iff_right fun hi => hid (List.mem_of_getElem? hi), and_iff_left rfl, eq_comm]
    · rw [AList.lookup_insert_ne hsame, h.index, or_iff_left fun hi => hsame hi.2.symm]

end Located

/-! ## Consistency -/

/-- The tables say of the slots what there is to say. -/
structure Consistent (s : IndexedStore) : Prop where
  ids : s.ids.Nodup
  nextId : s.nextId ≠ 0
  index : ∀ id i, s.index.lookup id = some i ↔ s.ids[i]? = some id
  interned : ∀ key id, s.interned.lookup key = some id ↔
    ∃ value, value.internKey = key ∧ (⟨id, value, true⟩ : Slot) ∈ s.slots

theorem consistent_new : new.Consistent where
  ids := List.nodup_nil
  nextId := by decide
  index := by
    intro id i
    rw [new, AList.lookup_empty]
    exact iff_of_false nofun nofun
  interned := by
    intro key id
    rw [new, AList.lookup_empty]
    exact iff_of_false nofun fun ⟨_, _, hslot⟩ => List.not_mem_nil hslot

namespace Consistent

theorem located (h : s.Consistent) : s.Located := ⟨h.ids, h.index⟩

theorem contains_iff (h : s.Consistent) : s.contains id = true ↔ id ∈ s.ids :=
  h.located.contains_iff

/-- The table of constants finds what a search among the slots finds. -/
theorem lookup_interned (h : s.Consistent) (value : Value) :
    s.interned.lookup value.internKey = s.toStore.interned? value := by
  have hlaw (id : VariableId) :
      s.interned.lookup value.internKey = some id ↔ (⟨id, value, true⟩ : Slot) ∈ s.slots := by
    rw [h.interned]
    constructor
    · rintro ⟨held, hkey, hslot⟩
      rwa [← Value.internKey_injective hkey]
    · intro hslot
      exact ⟨value, rfl, hslot⟩
  cases hfound : s.toStore.interned? value with
  | none =>
      rw [Option.eq_none_iff_forall_ne_some]
      intro id hid
      exact Store.notMem_slots_of_interned? hfound id ((hlaw id).1 hid)
  | some id => exact (hlaw id).2 (Store.mem_slots_of_interned? hfound)

/-! ## New names -/

/-- The search among the names of the index ends where the search with a bound does, if one of the
names within the bound is free. -/
theorem search_eq (h : s.Consistent)
    (hfree : ∃ i ≤ fuel, (⟨Store.successor^[i] n⟩ : VariableId) ∉ s.ids) :
    s.search n = .some (Store.firstFree s.ids fuel n) := by
  have hnone {n : UInt32} (hn : (⟨n⟩ : VariableId) ∉ s.ids) : s.contains ⟨n⟩ = false :=
    Bool.eq_false_iff.2 (mt h.contains_iff.1 hn)
  induction fuel generalizing n with
  | zero =>
      obtain ⟨i, hi, hfree⟩ := hfree
      obtain rfl := Nat.le_zero.1 hi
      exact search_of_free (hnone hfree)
  | succ fuel ih =>
      rw [Store.firstFree]
      by_cases htaken : (⟨n⟩ : VariableId) ∈ s.ids
      · rw [search_of_taken (h.contains_iff.2 htaken), if_pos htaken]
        obtain ⟨i, hi, hfree⟩ := hfree
        cases i with
        | zero => exact absurd htaken hfree
        | succ i => exact ih ⟨i, by omega, hfree⟩
      · rw [search_of_free (hnone htaken), if_neg htaken]

theorem allocate_eq (h : s.Consistent) (hroom : s.size + 1 < 2 ^ 32) :
    s.allocate = .some (s.toStore.allocate.1, { s with toStore := s.toStore.allocate.2 }) := by
  have hlength : s.ids.length = s.size := List.length_map _
  have hfree := Store.exists_free h.nextId (hlength ▸ hroom)
  rw [hlength] at hfree
  rw [IndexedStore.allocate, h.search_eq hfree]
  exact Part.bind_some _ _

/-! ## New slots -/

/-- Where the next search begins is free to change. -/
theorem from_next (h : s.Consistent) (hn : n ≠ 0) :
    ({ s with nextId := n } : IndexedStore).Consistent :=
  ⟨h.ids, hn, h.index, h.interned⟩

theorem push_variable (h : s.Consistent) (hid : id ∉ s.ids) :
    (s.push ⟨id, value, false⟩).Consistent where
  ids := (h.located.push hid).ids
  nextId := h.nextId
  index := (h.located.push hid).index
  interned := by
    intro key other
    show s.interned.lookup key = some other ↔
      ∃ held, _ ∧ _ ∈ s.slots ++ [(⟨id, value, false⟩ : Slot)]
    simp [h.interned]

theorem push_constant (h : s.Consistent) (hid : id ∉ s.ids)
    (hnew : s.interned.lookup value.internKey = none) :
    ({ s.push ⟨id, value, true⟩ with interned := s.interned.insert value.internKey id } :
      IndexedStore).Consistent where
  ids := (h.located.push hid).ids
  nextId := h.nextId
  index := (h.located.push hid).index
  interned := by
    intro key other
    show (s.interned.insert value.internKey id).lookup key = some other ↔
      ∃ held, _ ∧ _ ∈ s.slots ++ [(⟨id, value, true⟩ : Slot)]
    by_cases hkey : key = value.internKey
    · subst hkey
      have hfresh : ∀ other, (⟨other, value, true⟩ : Slot) ∉ s.slots := by
        intro other hslot
        have hold := (h.interned _ _).2 ⟨value, rfl, hslot⟩
        rw [hnew] at hold
        contradiction
      rw [AList.lookup_insert, Option.some.injEq]
      constructor
      · rintro rfl
        exact ⟨value, rfl, List.mem_append_right _ (List.mem_singleton_self _)⟩
      · rintro ⟨held, hheld, hslot⟩
        rw [Value.internKey_injective hheld] at hslot
        rcases List.mem_append.1 hslot with hold | hlast
        · exact absurd hold (hfresh other)
        · exact (congrArg Slot.id (List.mem_singleton.1 hlast)).symm
    · rw [AList.lookup_insert_ne hkey, h.interned]
      refine exists_congr fun held => and_congr_right fun hheld => ?_
      have hne : held ≠ value := fun heq => hkey (hheld ▸ congrArg Value.internKey heq)
      simp [hne]

end Consistent

/-! ## Calls -/

/-- A computation on the store with tables ends as one on the store without them does. -/
def Follows {α : Type} (result : Part (α × IndexedStore)) (answer : α × Store) : Prop :=
  ∃ s, result = .some (answer.1, s) ∧ s.toStore = answer.2 ∧ s.Consistent

namespace Consistent

theorem declare_follows (h : s.Consistent) (hroom : s.size + 1 < 2 ^ 32) (value : Value) :
    Follows (s.declare value) (s.toStore.declare value) := by
  have hlookup := h.lookup_interned value
  rw [IndexedStore.declare]
  cases hfound : s.toStore.interned? value with
  | some id =>
      rw [hlookup, hfound, Store.declare_of_some hfound]
      exact ⟨s, rfl, rfl, h⟩
  | none =>
      rw [hfound] at hlookup
      rw [hlookup, h.allocate_eq hroom, Store.declare_of_none hfound]
      refine ⟨_, Part.bind_some _ _, rfl, ?_⟩
      have hid := Store.allocate_notMem h.nextId hroom
      exact (h.from_next (Store.nextId_allocate s.toStore)).push_constant hid hlookup

theorem declareMutable_follows (h : s.Consistent) (hroom : s.size + 1 < 2 ^ 32) (value : Value) :
    Follows (s.declareMutable value) (s.toStore.declareMutable value) := by
  rw [IndexedStore.declareMutable, h.allocate_eq hroom]
  refine ⟨_, Part.bind_some _ _, rfl, ?_⟩
  have hid := Store.allocate_notMem h.nextId hroom
  exact (h.from_next (Store.nextId_allocate s.toStore)).push_variable hid

theorem insert_follows (h : s.Consistent) (id : VariableId) (value : Value) :
    Follows (s.call (.insert id value)) (s.toStore.call (.insert id value)) := by
  rw [IndexedStore.call, Store.call, IndexedStore.insert, Store.insert, ← h.located.contains_eq]
  by_cases hid : s.contains id = true
  · rw [if_pos hid, if_pos hid]
    exact ⟨s, rfl, rfl, h⟩
  · rw [if_neg hid, if_neg hid]
    -- The search begins where it did or further up, so never at zero.
    have hnext (above : UInt32) : (if s.nextId < above then above else s.nextId) ≠ 0 := by
      split
      · next hlt =>
          rintro rfl
          exact UInt32.not_lt_zero hlt
      · exact h.nextId
    exact ⟨_, rfl, rfl, (h.push_variable (mt h.contains_iff.2 hid)).from_next (hnext _)⟩

theorem write (h : s.Consistent) {old : Value} (hslot : s.slot? id = some ⟨id, old, false⟩) :
    ({ s with toStore := s.toStore.write id value } : IndexedStore).Consistent where
  ids := (h.located.of_ids (Store.ids_write ..)).ids
  nextId := h.nextId
  index := (h.located.of_ids (Store.ids_write ..)).index
  interned := by
    intro key other
    rw [h.interned]
    simp only [Store.constant_mem_write h.ids hslot]

theorem set_follows (h : s.Consistent) (id : VariableId) (value : Value) :
    Follows (s.call (.set id value)) (s.toStore.call (.set id value)) := by
  rw [IndexedStore.call, Store.call, IndexedStore.set]
  cases hindex : s.index.lookup id with
  | none =>
      have hid : id ∉ s.ids := by
        intro hmem
        obtain ⟨i, hi⟩ := List.mem_iff_getElem?.1 hmem
        rw [(h.index id i).2 hi] at hindex
        contradiction
      rw [Store.set, Store.slot?_eq_none_iff.2 hid]
      exact ⟨s, Part.bind_some _ _, rfl, h⟩
  | some i =>
      obtain ⟨⟨_, old, constant⟩, hslot, rfl⟩ :=
        Store.getElem?_ids_eq_some_iff.1 ((h.index id i).1 hindex)
      have hslot? := Store.slot?_of_mem h.ids (List.mem_of_getElem? hslot)
      cases constant with
      | true =>
          rw [Store.set, hslot?]
          refine ⟨s, ?_, rfl, h⟩
          simp [hslot]
      | false =>
          by_cases hkind : old.kind = value.kind
          · rw [Store.set_eq_ok.2 ⟨old, hslot?, hkind, rfl, rfl⟩]
            refine ⟨{ s with toStore := s.toStore.write _ value }, ?_, rfl, h.write hslot?⟩
            simp [hslot, hkind, Store.write, ← Store.slots_write h.ids hslot value]
          · rw [Store.set, hslot?]
            refine ⟨s, ?_, ?_, h⟩ <;> simp [hslot, hkind]

/-- A call does what it does without the tables. -/
theorem call_follows (h : s.Consistent) (hroom : s.size + 1 < 2 ^ 32) (c : StoreCall) :
    Follows (s.call c) (s.toStore.call c) := by
  cases c with
  | declare value =>
      obtain ⟨s', hdeclare, hstore, h'⟩ := h.declare_follows hroom value
      rw [IndexedStore.call, hdeclare]
      exact ⟨s', Part.bind_some _ _, hstore, h'⟩
  | declareMutable value =>
      obtain ⟨s', hdeclare, hstore, h'⟩ := h.declareMutable_follows hroom value
      rw [IndexedStore.call, hdeclare]
      exact ⟨s', Part.bind_some _ _, hstore, h'⟩
  | insert id value => exact h.insert_follows id value
  | set id value => exact h.set_follows id value
  | bindName name id => exact ⟨_, rfl, rfl, h.ids, h.nextId, h.index, h.interned⟩

end Consistent

end IndexedStore

end Panel
