import Panel.Proofs.Derived.Refresh

/-!
# One refresh is enough

`Store.filled` puts a value into each slot of a derived variable and leaves the other slots alone.
If no recipe reads a variable that is written after it, a refresh fills the slots with what the
recipes compute on the store that comes out, and a second refresh changes nothing at all.
-/

namespace Panel.Store

variable {derived rest : List DerivedVariable} {d : DerivedVariable} {s : Store} {id : VariableId}
  {kind : Kind} {value : Value} {computed : DerivedVariable → Value}

/-- The store with a value for each derived variable in its slot. -/
def filled (derived : List DerivedVariable) (computed : DerivedVariable → Value) (s : Store) :
    Store :=
  { s with slots := s.slots.map fun slot =>
      match derived.find? fun d => d.id = slot.id with
      | some d => { slot with value := computed d }
      | none => slot }

theorem filled_nil (s : Store) : s.filled [] computed = s := by
  simp [filled]

theorem filled_cons (hnotMem : d.id ∉ rest.map (·.id)) :
    (s.write d.id (computed d)).filled rest computed = s.filled (d :: rest) computed := by
  have hslot (slot : Slot) : d.id = slot.id → (rest.find? fun e => e.id = slot.id) = none := by
    intro hid
    rw [List.find?_eq_none]
    intro e he heq
    exact hnotMem (hid ▸ of_decide_eq_true heq ▸ List.mem_map_of_mem he)
  rw [filled, filled, write, List.map_map]
  congr 1
  apply List.map_congr_left
  intro slot _
  by_cases hid : slot.id = d.id
  · rw [Function.comp_apply, if_pos hid, List.find?_cons_of_pos (by simp [hid]),
      hslot slot hid.symm]
  · rw [Function.comp_apply, if_neg hid, List.find?_cons_of_neg (by simp [Ne.symm hid])]

theorem value_eq_of_mem_filled {slot : Slot} (hids : (derived.map (·.id)).Nodup) (hd : d ∈ derived)
    (hslot : slot ∈ (s.filled derived computed).slots) (hid : d.id = slot.id) :
    slot.value = computed d := by
  obtain ⟨old, -, hold⟩ := List.mem_map.1 hslot
  cases hfound : derived.find? fun e => e.id = old.id with
  | none =>
      simp only [hfound] at hold
      have hnone := List.find?_eq_none.1 hfound d hd
      rw [hold, decide_eq_true_eq] at hnone
      exact absurd hid hnone
  | some e =>
      simp only [hfound] at hold
      have heid : e.id = old.id := by simpa using List.find?_some hfound
      have hsame : e.id = d.id := by rw [heid, hid, ← hold]
      obtain rfl := List.inj_on_of_nodup_map hids (List.mem_of_find?_eq_some hfound) hd hsame
      rw [← hold]

/-! ## The first refresh -/

/-- Each derived variable is written before those that may read it, so what it was computed from is
what the final store holds. -/
theorem Writable.refreshed_eq_filled (h : s.Writable derived) (hordered : s.Ordered derived) :
    s.refreshed derived =
      s.filled derived fun d => d.recipe.value (s.refreshed derived) := by
  induction derived generalizing s with
  | nil => exact (filled_nil s).symm
  | cons d rest ih =>
      have hfirst : d ∈ d :: rest := List.mem_cons_self
      have hrest : (s.settle d).Ordered rest := by
        rw [ordered_congr (h.getList_settle hfirst)]
        exact ⟨fun e he => hordered.1 e (.tail d he), hordered.2.of_cons⟩
      have hvalue : d.recipe.value s = d.recipe.value (s.refreshed (d :: rest)) := by
        have hget := h.settled_refreshed hordered d hfirst
        rw [h.refreshed_cons, h.settle.get_refreshed h.notMem_tail, h.get_settle hfirst,
          ← h.refreshed_cons] at hget
        exact Except.ok.inj hget
      rw [← filled_cons h.notMem_tail, ← hvalue, h.refreshed_cons]
      exact ih h.settle hrest

/-- A slot that can be written with values of a kind. -/
def Holds (s : Store) (id : VariableId) (kind : Kind) : Prop :=
  ∃ value, s.slot? id = some ⟨id, value, false⟩ ∧ value.kind = kind

theorem Writable.holds_settle (h : s.Writable derived) (hd : d ∈ derived)
    (hholds : s.Holds id kind) : (s.settle d).Holds id kind := by
  obtain ⟨old, hold, hkind⟩ := hholds
  by_cases hid : id = d.id
  · subst hid
    obtain ⟨value, hslot, hsame⟩ := h.slot d hd
    obtain ⟨rfl⟩ : value = old := by simpa [hold] using hslot.symm
    exact ⟨_, slot?_write_self hold, (d.recipe.kind_value s).trans (hsame.symm.trans hkind)⟩
  · exact ⟨old, (slot?_write_of_ne hid).trans hold, hkind⟩

theorem Writable.holds_refreshed (h : s.Writable derived) (hholds : s.Holds id kind) :
    (s.refreshed derived).Holds id kind := by
  induction derived generalizing s with
  | nil => exact hholds
  | cons d rest ih =>
      rw [h.refreshed_cons]
      exact ih h.settle (h.holds_settle List.mem_cons_self hholds)

theorem Writable.refreshed (h : s.Writable derived) : (s.refreshed derived).Writable derived where
  derivedIds := h.derivedIds
  slot := fun d hd => h.holds_refreshed (h.slot d hd)

/-! ## The second refresh -/

theorem write_eq_self_of_forall (h : ∀ slot ∈ s.slots, slot.id = id → slot.value = value) :
    s.write id value = s := by
  have hslots :
      (s.slots.map fun slot : Slot => if slot.id = id then { slot with value } else slot) =
      s.slots.map fun slot => slot := by
    apply List.map_congr_left
    intro slot hslot
    by_cases hid : slot.id = id
    · rw [if_pos hid, ← h slot hslot hid]
    · rw [if_neg hid]
  rw [write, hslots, List.map_id']

/-- A store whose slots hold what the recipes compute is not changed. -/
theorem Writable.refreshed_eq_self (h : s.Writable derived)
    (hheld : ∀ d ∈ derived, ∀ slot ∈ s.slots, slot.id = d.id → slot.value = d.recipe.value s) :
    s.refreshed derived = s := by
  induction derived with
  | nil => rfl
  | cons d rest ih =>
      have hsame : s.settle d = s := write_eq_self_of_forall (hheld d List.mem_cons_self)
      have hrest := h.settle
      rw [hsame] at hrest
      rw [h.refreshed_cons, hsame]
      exact ih hrest fun e he => hheld e (.tail d he)

/-- **One refresh reaches the fixed point.**  If the derived variables have distinct names, each of
them a slot of its kind that can be written, and no recipe reads its own variable or a later one,
then after a refresh each derived variable holds what its recipe computes on the store as it then
stands, or the default of its kind where the recipe fails; every other slot, the order of the slots
and the names known to the host are as before; and a second refresh changes nothing. -/
theorem refreshed_fixpoint (h : s.Writable derived) (hordered : s.Ordered derived) :
    let after := s.refreshed derived
    (∀ d ∈ derived, after.get d.id = .ok
      (match d.recipe.compute after with
        | .ok value => value
        | .error _ => .default d.recipe.kind)) ∧
    after = { s with slots := s.slots.map fun slot =>
      match derived.find? fun d => d.id = slot.id with
      | some d => { slot with value := d.recipe.value after }
      | none => slot } ∧
    after.refreshed derived = after := by
  intro after
  have hfilled : after = s.filled derived fun d => d.recipe.value after :=
    h.refreshed_eq_filled hordered
  refine ⟨h.settled_refreshed hordered, hfilled, h.refreshed.refreshed_eq_self ?_⟩
  intro d hd slot (hslot : slot ∈ after.slots) hid
  rw [hfilled] at hslot
  exact value_eq_of_mem_filled h.derivedIds hd hslot hid.symm

/-- The fourth slot feeds the fifth, the fifth chooses a text for the sixth, and the seventh asks
for a text that is not there. -/
theorem refreshed_fixpoint_lookup :
    let s : Store := ⟨[⟨⟨1⟩, .int 3, false⟩, ⟨⟨2⟩, .text "on", true⟩, ⟨⟨3⟩, .list [⟨1⟩, ⟨2⟩], false⟩,
      ⟨⟨4⟩, .float .zero, false⟩, ⟨⟨5⟩, .int 0, false⟩, ⟨⟨6⟩, .text "", false⟩,
      ⟨⟨7⟩, .text "old", false⟩], [("n", ⟨1⟩)], 8⟩
    let derived : List DerivedVariable := [
      ⟨⟨4⟩, .float (.binary .div (.reference ⟨1⟩) (.constant (.int 2)))⟩,
      ⟨⟨5⟩, .integer (.unary .toInt (.reference ⟨4⟩))⟩,
      ⟨⟨6⟩, .textLookup ⟨3⟩ ⟨5⟩⟩,
      ⟨⟨7⟩, .textLookup ⟨3⟩ ⟨1⟩⟩]
    s.Writable derived ∧ s.Ordered derived ∧
      (s.refreshed derived).get ⟨6⟩ = .ok (.text "on") ∧
      (s.refreshed derived).get ⟨7⟩ = .ok (.text "") ∧
      (s.refreshed derived).get ⟨1⟩ = .ok (.int 3) ∧
      (s.refreshed derived).refreshed derived = s.refreshed derived := by
  intro s derived
  have hslots : ∀ d ∈ derived, (s.slot? d.id).any fun slot =>
      decide (slot = ⟨d.id, slot.value, false⟩ ∧ slot.value.kind = d.recipe.kind) := by
    decide +kernel
  have hwritable : s.Writable derived := by
    refine ⟨by decide, fun d hd => ?_⟩
    obtain ⟨slot, hslot, hfacts⟩ := (Option.any_eq_true _ _).1 (hslots d hd)
    obtain ⟨hid, hkind⟩ := of_decide_eq_true hfacts
    exact ⟨slot.value, hid ▸ hslot, hkind⟩
  have hordered : s.Ordered derived := by decide
  obtain ⟨hvalue, hstore, htwice⟩ := refreshed_fixpoint hwritable hordered
  exact ⟨hwritable, hordered, by decide +kernel, by decide +kernel, by decide +kernel, htwice⟩

end Panel.Store
