import Panel.Proofs.Store.Effect
import Panel.Proofs.Store.InPlace

/-!
# What a store keeps, whatever is done to it

Slots are only added, at the end.  Each keeps its name, its kind and its mark, and a constant its
value; what fails changes nothing.  `Store.Advances` says this of two stores, together with the
declarations and writes that lie between them, from which every value can be read off.
-/

namespace Panel

/-! ## What lies between two stores -/

/-- A slot before and after: the value may differ, within its kind, unless it is a constant's. -/
structure Slot.Keeps (old new : Slot) : Prop where
  id : new.id = old.id
  constant : new.constant = old.constant
  kind : new.value.kind = old.value.kind
  value : old.constant = true → new.value = old.value

namespace Slot.Keeps

variable {old mid new : Slot}

theorem refl (slot : Slot) : slot.Keeps slot := ⟨rfl, rfl, rfl, fun _ => rfl⟩

theorem trans (h : old.Keeps mid) (h' : mid.Keeps new) : old.Keeps new where
  id := h'.id.trans h.id
  constant := h'.constant.trans h.constant
  kind := h'.kind.trans h.kind
  value := fun hconstant => (h'.value (h.constant.trans hconstant)).trans (h.value hconstant)

theorem eq_of_constant (h : old.Keeps new) (hconstant : old.constant = true) : new = old := by
  have hvalue := h.value hconstant
  obtain ⟨hid, hmark, -, -⟩ := h
  cases old
  cases new
  simp_all

end Slot.Keeps

namespace Store

/-- One store comes after another, with some declarations and writes between them. -/
structure Advances (s : Store) (log : List (VariableId × Value)) (t : Store) : Prop where
  /-- Each slot is still where it was. -/
  slots : ∀ (i : Nat) (old : Slot), s.slots[i]? = some old →
    ∃ new, t.slots[i]? = some new ∧ old.Keeps new
  get : ∀ id, t.get id = match log.reverse.lookup id with
    | some value => .ok value
    | none => s.get id

variable {s t u : Store} {log later : List (VariableId × Value)} {id : VariableId} {value : Value}
  {changed : Bool} {slot : Slot}

namespace Advances

theorem of_slots (h : t.slots = s.slots) : s.Advances [] t where
  slots := fun i old hold => ⟨old, h ▸ hold, .refl old⟩
  get := by
    intro id
    rw [Store.get, slot?, h]
    rfl

theorem trans (h : s.Advances log t) (h' : t.Advances later u) : s.Advances (log ++ later) u where
  slots := by
    intro i old hold
    obtain ⟨mid, hmid, hkeeps⟩ := h.slots i old hold
    obtain ⟨new, hnew, hkeeps'⟩ := h'.slots i mid hmid
    exact ⟨new, hnew, hkeeps.trans hkeeps'⟩
  get := by
    intro id
    rw [h'.get, List.reverse_append, List.lookup_append, h.get]
    cases later.reverse.lookup id <;> rfl

/-- The names are still the first ones, in their order. -/
theorem ids_prefix (h : s.Advances log t) : s.ids <+: t.ids := by
  rw [List.prefix_iff_getElem?]
  intro i hi
  obtain ⟨old, hold, hid⟩ := getElem?_ids_eq_some_iff.1 (List.getElem?_eq_getElem hi)
  obtain ⟨new, hnew, hkeeps⟩ := h.slots i old hold
  exact getElem?_ids_eq_some_iff.2 ⟨new, hnew, hkeeps.id.trans hid⟩

/-- A constant stays as it is. -/
theorem mem_of_constant (h : s.Advances log t) (hslot : slot ∈ s.slots)
    (hconstant : slot.constant = true) : slot ∈ t.slots := by
  obtain ⟨i, hi⟩ := List.mem_iff_getElem?.1 hslot
  obtain ⟨new, hnew, hkeeps⟩ := h.slots i slot hi
  rw [hkeeps.eq_of_constant hconstant] at hnew
  exact List.mem_of_getElem? hnew

/-- One declaration or write. -/
theorem of_one (hslots : ∀ (i : Nat) (old : Slot), s.slots[i]? = some old →
      ∃ new, t.slots[i]? = some new ∧ old.Keeps new)
    (hself : t.get id = .ok value) (hother : ∀ other, other ≠ id → t.get other = s.get other) :
    s.Advances [(id, value)] t where
  slots := hslots
  get := by
    intro other
    by_cases hid : other = id
    · subst hid
      simp [hself]
    · have hmiss : (other == id) = false := beq_eq_false_iff_ne.2 hid
      simp [hother other hid, List.lookup_cons, hmiss]

theorem push (hid : slot.id ∉ s.ids) : s.Advances [(slot.id, slot.value)] (s.push slot) := by
  have hnone : s.slots.find? (fun other => other.id = slot.id) = none := slot?_eq_none_iff.2 hid
  apply of_one
  · intro i old hold
    have hi := (List.getElem?_eq_some_iff.1 hold).1
    exact ⟨old, (List.getElem?_append_left hi).trans hold, .refl old⟩
  · apply get_of_slot?
    simp [Store.slot?, Store.push, hnone]
  · intro other hother
    apply get_congr
    simp [Store.slot?, Store.push, hother.symm]

theorem of_set (hnodup : s.ids.Nodup) (hset : s.set id value = .ok (changed, t)) :
    s.Advances [(id, value)] t := by
  obtain ⟨held, hslot, hkind, -, rfl⟩ := set_eq_ok.1 hset
  apply of_one
  · intro i old hold
    rw [write, List.getElem?_map, hold]
    refine ⟨_, rfl, ?_⟩
    dsimp only
    by_cases hid : old.id = id
    · have hsame := slot?_of_mem hnodup (List.mem_of_getElem? hold)
      rw [hid, hslot, Option.some.injEq] at hsame
      subst hsame
      rw [if_pos rfl]
      exact ⟨rfl, rfl, hkind.symm, fun hconstant => absurd hconstant Bool.false_ne_true⟩
    · rw [if_neg hid]
      exact .refl old
  · exact get_write_self hslot
  · intro other hother
    exact get_write_of_ne hother

/-- A value that is there may be taken for declared once more. -/
theorem of_get (h : s.get id = .ok value) : s.Advances [(id, value)] s :=
  of_one (fun _ old hold => ⟨old, hold, .refl old⟩) h fun _ _ => rfl

end Advances

end Store

/-! ## What a use declares and writes -/

/-- The writes of a round of derived variables: each value is computed after the writes before, and
those that are refused are left out. -/
def Store.refreshWrites : List DerivedVariable → Store → List (VariableId × Value)
  | [], _ => []
  | d :: rest, s =>
    let value := d.recipe.value s
    match s.set d.id value with
    | .ok (_, t) => (d.id, value) :: t.refreshWrites rest
    | .error _ => s.refreshWrites rest

/-- What a use that is answered in some way declares and writes, in order. -/
def StoreUse.writes (s : Store) :
    StoreUse → Except StoreError StoreReply → List (VariableId × Value)
  | call (.declare value), .ok (.id id) => [(id, value)]
  | call (.declareMutable value), .ok (.id id) => [(id, value)]
  | call (.insert id value), .ok .done => [(id, value)]
  | call (.set id value), .ok (.written _) => [(id, value)]
  | apply effect, .ok (.outcome (.written target _)) =>
    (effect.operand? s).toList.map fun value => (target, value)
  | refresh derived, .ok (.changed _) => s.refreshWrites derived
  | _, _ => []

/-- Whether a use may need a new name. -/
def StoreUse.mayAllocate : StoreUse → Bool
  | call (.declare _) => true
  | call (.declareMutable _) => true
  | _ => false

/-- Whether a use is a write of one value, by a call or by an action. -/
def StoreUse.isWrite : StoreUse → Bool
  | call (.set ..) => true
  | apply _ => true
  | _ => false

/-- The variable that a write is to. -/
def StoreUse.target? : StoreUse → Option VariableId
  | call (.set id _) => some id
  | apply effect => effect.target?
  | _ => none

/-- A round of derived variables comes to the writes that are not refused. -/
theorem Store.advances_refreshed {s : Store} (hnodup : s.ids.Nodup)
    (derived : List DerivedVariable) :
    s.Advances (s.refreshWrites derived) (s.refreshed derived) := by
  induction derived generalizing s with
  | nil => exact .of_slots rfl
  | cons d derived ih =>
      rw [refreshed_cons, refreshWrites, DerivedVariable.refresh]
      cases hset : s.set d.id (d.recipe.value s) with
      | error e => exact ih hnodup
      | ok written =>
          obtain ⟨changed, t⟩ := written
          have hids := ids_of_set hset
          exact (Advances.of_set hnodup hset).trans (ih (hids ▸ hnodup))

end Panel
