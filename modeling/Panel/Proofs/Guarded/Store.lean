import Panel.Guarded.Store
import Panel.Proofs.Store.Indexed

/-!
# Slots are always where the index says

Where the index has each name at its position, what reads or writes variables through the index has
an answer, the one that it has without the index.  A write leaves the names where they are, so the
index stays right.
-/

namespace Panel

namespace Store

variable {s t : Store} {id : VariableId} {value : Value} {changed : Bool}

theorem ids_of_set (h : s.set id value = .ok (changed, t)) : t.ids = s.ids := by
  obtain ⟨_, -, -, -, rfl⟩ := set_eq_ok.1 h
  exact ids_write s id value

theorem ids_refresh (d : DerivedVariable) (s : Store) : (d.refresh s).2.ids = s.ids := by
  unfold DerivedVariable.refresh
  cases hset : s.set d.id (d.recipe.value s) with
  | error e => rfl
  | ok written => exact ids_of_set hset

theorem refreshed_cons (d : DerivedVariable) (derived : List DerivedVariable) (s : Store) :
    s.refreshed (d :: derived) = (d.refresh s).2.refreshed derived := rfl

theorem ids_refreshed (derived : List DerivedVariable) (s : Store) :
    (s.refreshed derived).ids = s.ids := by
  induction derived generalizing s with
  | nil => rfl
  | cons d derived ih => rw [refreshed_cons, ih, ids_refresh]

end Store

namespace IndexedStore

variable {s : IndexedStore} {id : VariableId}

/-- The same tables over other slots. -/
def withSlots (s : IndexedStore) (store : Store) : IndexedStore := { s with toStore := store }

namespace Located

theorem blank : IndexedStore.blank.Located where
  ids := List.nodup_nil
  index := by
    intro id i
    rw [IndexedStore.blank, AList.lookup_empty]
    exact iff_of_false nofun nofun

/-- The index leads to the slot of a name, or has not got the name because there is no such slot. -/
theorem slot_cases (h : s.Located) (id : VariableId) :
    (s.index.lookup id = none ∧ s.toStore.slot? id = none) ∨
      ∃ i slot, s.index.lookup id = some i ∧ s.slots[i]? = some slot ∧ slot.id = id ∧
        s.toStore.slot? id = some slot := by
  cases hindex : s.index.lookup id with
  | none =>
      refine .inl ⟨rfl, Store.slot?_eq_none_iff.2 fun hmem => ?_⟩
      obtain ⟨i, hi⟩ := List.mem_iff_getElem?.1 hmem
      rw [(h.index id i).2 hi] at hindex
      contradiction
  | some i =>
      obtain ⟨slot, hslot, rfl⟩ := Store.getElem?_ids_eq_some_iff.1 ((h.index id i).1 hindex)
      have hfound := Store.slot?_of_mem h.ids (List.mem_of_getElem? hslot)
      exact .inr ⟨i, slot, rfl, hslot, rfl, hfound⟩

/-- A new variable is refused because the name is taken, or stands at the end and is found there. -/
theorem insert_cases (h : s.Located) (id : VariableId) (value : Value) :
    (∃ e, s.toStore.insert id value = .error e ∧ s.insert id value = .error e) ∨
      ∃ t, s.toStore.insert id value = .ok t.toStore ∧ s.insert id value = .ok t ∧ t.Located := by
  rw [IndexedStore.insert, Store.insert, ← h.contains_eq]
  by_cases hid : s.contains id = true
  · rw [if_pos hid, if_pos hid]
    exact .inl ⟨_, rfl, rfl⟩
  · rw [if_neg hid, if_neg hid]
    have hpush : (s.push ⟨id, value, false⟩).Located := h.push (mt h.contains_iff.2 hid)
    exact .inr ⟨_, rfl, rfl, hpush.ids, hpush.index⟩

/-! ## Reads -/

theorem run_read? (h : s.Located) (id : VariableId) :
    (s.read? id).run = some (s.toStore.get id) := by
  rw [read?, fetch?, Store.get]
  rcases h.slot_cases id with ⟨hindex, hfound⟩ | ⟨i, slot, hindex, hslot, -, hfound⟩
  · rw [hindex, hfound]
    rfl
  · rw [hindex, hfound]
    exact Checked.run_bind_lift hslot

theorem run_readInt? (h : s.Located) (id : VariableId) :
    (s.readInt? id).run = some (s.toStore.getInt id) :=
  Checked.run_bind (h.run_read? id) fun value _ => by cases value <;> rfl

theorem run_readText? (h : s.Located) (id : VariableId) :
    (s.readText? id).run = some (s.toStore.getText id) :=
  Checked.run_bind (h.run_read? id) fun value _ => by cases value <;> rfl

theorem run_readColor? (h : s.Located) (id : VariableId) :
    (s.readColor? id).run = some (s.toStore.getColor id) :=
  Checked.run_bind (h.run_read? id) fun value _ => by cases value <;> rfl

theorem run_readList? (h : s.Located) (id : VariableId) :
    (s.readList? id).run = some (s.toStore.getList id) :=
  Checked.run_bind (h.run_read? id) fun value _ => by cases value <;> rfl

theorem run_readScalar? (h : s.Located) (id : VariableId) :
    (s.readScalar? id).run = some (s.toStore.getScalar id) :=
  Checked.run_bind (h.run_read? id) fun value _ => by cases value <;> rfl

theorem run_readItem? (h : s.Located) (list : VariableId) (index : Int) :
    (s.readItem? list index).run = some (s.toStore.listGet list index) := by
  refine Checked.run_bind (h.run_readList? list) fun items _ => ?_
  cases (if 0 ≤ index then items[index.toNat]? else none) <;> rfl

/-! ## Writes -/

theorem withSlots_of_set {value : Value} {changed : Bool} {written : Store} (h : s.Located)
    (hset : s.toStore.set id value = .ok (changed, written)) : (s.withSlots written).Located :=
  h.of_ids (Store.ids_of_set hset)

/-- A write goes to the slot that a search by name would have found. -/
theorem run_write? (h : s.Located) (id : VariableId) (value : Value) :
    (s.write? id value).run =
      some ((s.toStore.set id value).map fun written => (written.1, s.withSlots written.2)) := by
  rw [write?, Store.set]
  rcases h.slot_cases id with ⟨hindex, hfound⟩ | ⟨i, slot, hindex, hslot, rfl, hfound⟩
  · rw [hindex, hfound]
    rfl
  · rw [hindex, hfound]
    refine (Checked.run_bind_lift hslot).trans ?_
    dsimp only
    by_cases hconstant : slot.constant = true
    · rw [if_pos hconstant, if_pos hconstant]
      rfl
    · rw [if_neg hconstant, if_neg hconstant]
      by_cases hkind : slot.value.kind ≠ value.kind
      · rw [if_pos hkind, if_pos hkind]
        rfl
      · rw [if_neg hkind, if_neg hkind, ← Store.slots_write h.ids hslot value]
        rfl

/-! ## Derived variables -/

theorem run_evaluate? (h : s.Located) (e : Expression) :
    (e.evaluate? s).run = some (e.evaluate s.toStore) := by
  induction e with
  | constant value => rfl
  | reference id => exact h.run_readScalar? id
  | binary op lhs rhs ihl ihr =>
      exact Checked.run_bind ihl fun _ _ => Checked.run_bind ihr fun _ _ => rfl
  | unary op operand ih => exact Checked.run_bind ih fun _ _ => rfl

theorem dependencies?_eq (h : s.Located) (r : Recipe) :
    r.dependencies? s = some (r.dependencies s.toStore) := by
  cases r with
  | integer e => rfl
  | float e => rfl
  | textLookup list index =>
      rw [Recipe.dependencies?, h.run_readList?, Recipe.dependencies]
      cases s.toStore.getList list <;> rfl
  | textFromNumber source places => rfl

theorem run_compute? (h : s.Located) (r : Recipe) :
    (r.compute? s).run = some (r.compute s.toStore) := by
  cases r with
  | integer e => exact Checked.run_bind (h.run_evaluate? e) fun _ _ => rfl
  | float e => exact Checked.run_bind (h.run_evaluate? e) fun _ _ => rfl
  | textLookup list index =>
      exact Checked.run_bind (h.run_readInt? index) fun _ _ =>
        Checked.run_bind (h.run_readItem? list _) fun element _ =>
          Checked.run_bind (h.run_readText? element) fun _ _ => rfl
  | textFromNumber source places =>
      refine Checked.run_bind (h.run_read? source) fun value _ => ?_
      cases value <;> rfl

theorem value?_eq (h : s.Located) (r : Recipe) : r.value? s = some (r.value s.toStore) := by
  rw [Recipe.value?, h.run_compute?, Recipe.value]
  cases r.compute s.toStore <;> rfl

theorem refreshOne?_eq (h : s.Located) (d : DerivedVariable) :
    d.refresh? s = some ((d.refresh s.toStore).1, s.withSlots (d.refresh s.toStore).2) := by
  rw [DerivedVariable.refresh?, h.value?_eq]
  dsimp only [Option.bind_eq_bind, Option.bind_some]
  rw [h.run_write?, DerivedVariable.refresh]
  cases s.toStore.set d.id (d.recipe.value s.toStore) <;> rfl

/-- Each slot is recomputed from slots that are where the index says, also after the writes to
those before it. -/
theorem refresh?_eq (h : s.Located) (derived : List DerivedVariable) :
    s.refresh? derived = some (s.withSlots (s.toStore.refreshed derived)) := by
  induction derived generalizing s with
  | nil => rfl
  | cons d derived ih =>
      rw [IndexedStore.refresh?, List.foldlM_cons, h.refreshOne?_eq]
      exact ih (h.of_ids (Store.ids_refresh d s.toStore))

/-! ## Actions -/

theorem run_writing? (h : s.Located) (target : VariableId) (value : Value) :
    (Effect.writing? s target value).run =
      some ((Effect.writing s.toStore target value).map fun done =>
        (done.1, s.withSlots done.2)) := by
  rw [Effect.writing?, ExceptT.run_bind, h.run_write?, Effect.writing]
  cases s.toStore.set target value <;> rfl

theorem run_perform? (h : s.Located) (e : Effect) :
    (e.perform? s).run =
      some ((e.apply s.toStore).map fun done => (done.1, s.withSlots done.2)) := by
  cases e with
  | setInteger target value => exact h.run_writing? target _
  | setFloat target value => exact h.run_writing? target _
  | copyText target text =>
      rw [Effect.perform?, ExceptT.run_bind, h.run_readText?, Effect.apply]
      cases s.toStore.getText text with
      | error e => rfl
      | ok held => exact h.run_writing? target (.text held)
  | copyInteger target expression =>
      rw [Effect.perform?, ExceptT.run_bind, h.run_readScalar?, Effect.apply]
      cases s.toStore.getScalar expression with
      | error e => rfl
      | ok held => exact h.run_writing? target (.int held.toInt32)
  | host request => rfl

/-! ## What references stand for -/

theorem resolveText?_eq (h : s.Located) (id : VariableId) :
    s.resolveText? id = some (s.toStore.resolveText id) := by
  rw [IndexedStore.resolveText?, h.run_readText?, Store.resolveText]
  cases s.toStore.getText id <;> rfl

theorem resolveColor?_eq (h : s.Located) (id : VariableId) :
    s.resolveColor? id = some (s.toStore.resolveColor id) := by
  rw [IndexedStore.resolveColor?, h.run_readColor?, Store.resolveColor]
  cases s.toStore.getColor id <;> rfl

theorem resolve?_eq (h : s.Located) (source : VisibilitySource) :
    source.resolve? s = some (source.resolve s.toStore) := by
  cases source with
  | literal visibility => rfl
  | reference id =>
      rw [VisibilitySource.resolve?, h.run_readInt?, VisibilitySource.resolve]
      cases s.toStore.getInt id <;> rfl

theorem resolvedVisibility?_eq (h : s.Located) (ms : Modifiers) :
    Modifiers.resolvedVisibility? s ms = some (Modifiers.resolvedVisibility s.toStore ms) :=
  h.resolve?_eq _

end Located

end IndexedStore

end Panel
