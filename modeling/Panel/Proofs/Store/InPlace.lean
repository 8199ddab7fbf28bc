import Panel.Proofs.Guarded.Store
import Panel.Store.InPlace

/-!
# What is done in place

A computation on a store that is changed in place comes to the same as one that returns a new store:
the same answer, and the new store where there is one.  Where there is an error, the store is the
one before.
-/

namespace Panel

namespace Mutation

variable {α β : Type} {m : Mutation α} {f : α → Mutation β} {s t : IndexedStore} {a : α}
  {e : StoreError}

/-! ## Steps -/

theorem on_bind_of_ok (h : m.on s = .some (.ok a, t)) : (m >>= f).on s = (f a).on t := by
  rw [on] at h
  rw [on, ExceptT.run_bind, StateT.run_bind, h, Part.bind_eq_bind, Part.bind_some]
  rfl

theorem on_bind_of_error (h : m.on s = .some (.error e, t)) :
    (m >>= f).on s = .some (.error e, t) := by
  rw [on] at h
  rw [on, ExceptT.run_bind, StateT.run_bind, h, Part.bind_eq_bind, Part.bind_some]
  rfl

/-- What is made of steps that have an answer has one. -/
theorem exists_on_bind (hm : ∃ done, m.on s = .some done)
    (hf : ∀ a t, ∃ done, (f a).on t = .some done) : ∃ done, (m >>= f).on s = .some done := by
  obtain ⟨⟨found, t⟩, hm⟩ := hm
  cases found with
  | error e => exact ⟨_, on_bind_of_error hm⟩
  | ok a =>
      obtain ⟨done, hdone⟩ := hf a t
      exact ⟨done, (on_bind_of_ok hm).trans hdone⟩

theorem on_tryCatch_of_ok {handle : StoreError → Mutation α} (h : m.on s = .some (.ok a, t)) :
    (tryCatch m handle).on s = .some (.ok a, t) := by
  rw [on] at h
  rw [on, ExceptT.run_tryCatch, StateT.run_bind, h, Part.bind_eq_bind, Part.bind_some]
  rfl

theorem on_tryCatch_of_error {handle : StoreError → Mutation α}
    (h : m.on s = .some (.error e, t)) : (tryCatch m handle).on s = (handle e).on t := by
  rw [on] at h
  rw [on, ExceptT.run_tryCatch, StateT.run_bind, h, Part.bind_eq_bind, Part.bind_some]
  rfl

theorem on_get : (get : Mutation IndexedStore).on s = .some (.ok s, s) := by
  show (Except.ok <$> (get : StateT IndexedStore Part IndexedStore)).run s = _
  rw [StateT.run_map, StateT.run_get, map_pure, Part.pure_eq_some]

theorem on_modify (change : IndexedStore → IndexedStore) :
    (modify change : Mutation Unit).on s = .some (.ok (), change s) := by
  show (Except.ok <$> (modify change : StateT IndexedStore Part Unit)).run s = _
  rw [StateT.run_map, StateT.run_modify, map_pure, Part.pure_eq_some]

theorem on_pure : (pure a : Mutation α).on s = .some (.ok a, s) := rfl

theorem on_throw : (throw e : Mutation α).on s = .some (.error e, s) := rfl

/-- A step that does not look at the store. -/
theorem on_bind_lift {x : Part α} :
    ((liftM x : Mutation α) >>= f).on s = x.bind fun a => (f a).on s := by
  have hlift : (liftM x : Mutation α).run.run s = x.map fun a => (.ok a, s) := by
    show (Except.ok <$> (StateT.lift x : StateT IndexedStore Part α)).run s = _
    rw [StateT.run_map, StateT.run_lift]
    simp only [Part.bind_eq_bind, Part.pure_eq_some, Part.map_eq_map, Part.bind_some_eq_map]
    exact Part.map_map _ _ _
  rw [on, ExceptT.run_bind, StateT.run_bind, hlift, Part.bind_eq_bind, Part.bind_map]
  rfl

theorem on_reading (read : IndexedStore → Checked StoreError α) {found : Except StoreError α}
    (h : (read s).run = some found) : (reading read).on s = .some (found, s) := by
  simp [on, reading, h]

/-- What follows a read goes on with what was found, or is not reached. -/
theorem on_bind_reading (read : IndexedStore → Checked StoreError α)
    {found : Except StoreError α} :
    (read s).run = some found → (reading read >>= f).on s = match found with
      | .ok a => (f a).on s
      | .error e => .some (.error e, s) := by
  intro h
  have hread := on_reading read h
  cases found with
  | error e => exact on_bind_of_error hread
  | ok a => exact on_bind_of_ok hread

end Mutation

namespace IndexedStore

open Mutation

variable {α : Type} {s : IndexedStore}

/-- How a computation that returns a new store, or an error, ends in place. -/
def settle (s : IndexedStore) : Except StoreError (α × Store) → Except StoreError α × IndexedStore
  | .ok (a, t) => (.ok a, s.withSlots t)
  | .error e => (.error e, s)

/-- What is reported of a computation that ends so. -/
theorem cases_of_settle {β : Type} {m : Mutation α} {report : α → β}
    {result : Except StoreError (α × Store)} {answer : Except StoreError β} {t : IndexedStore}
    (h : m.on s = .some (s.settle result))
    (hstep : (do return report (← m) : Mutation β).on s = .some (answer, t)) :
    (∃ e, result = .error e ∧ answer = .error e ∧ t = s) ∨
      ∃ a store, result = .ok (a, store) ∧ answer = .ok (report a) ∧ t = s.withSlots store := by
  cases result with
  | error e =>
      rw [on_bind_of_error h] at hstep
      cases Part.some_inj.1 hstep
      exact .inl ⟨e, rfl, rfl, rfl⟩
  | ok done =>
      rw [on_bind_of_ok h] at hstep
      cases Part.some_inj.1 hstep
      exact .inr ⟨done.1, done.2, rfl, rfl, rfl⟩

namespace Located

theorem on_write (h : s.Located) (id : VariableId) (value : Value) :
    (write id value).on s = .some (s.settle (s.toStore.set id value)) := by
  rw [write, on_bind_of_ok on_get, Store.set]
  rcases h.slot_cases id with ⟨hindex, hfound⟩ | ⟨i, slot, hindex, hslot, rfl, hfound⟩
  · rw [hindex, hfound]
    exact on_throw
  · have hread : (Part.ofOption s.slots[i]? : Part Slot) = .some slot := by
      rw [hslot]
      rfl
    rw [hindex, hfound]
    dsimp only
    rw [on_bind_lift, hread, Part.bind_some]
    by_cases hconstant : slot.constant = true
    · rw [if_pos hconstant, if_pos hconstant]
      exact on_throw
    · rw [if_neg hconstant, if_neg hconstant]
      by_cases hkind : slot.value.kind ≠ value.kind
      · rw [if_pos hkind, if_pos hkind]
        exact on_throw
      · rw [if_neg hkind, if_neg hkind, on_bind_of_ok (on_modify _),
          ← Store.slots_write h.ids hslot value]
        rfl

theorem on_assign (h : s.Located) (target : VariableId) (value : Value) :
    (assign target value).on s = .some (s.settle (Effect.writing s.toStore target value)) := by
  have hwrite := h.on_write target value
  rw [assign, Effect.writing]
  cases hset : s.toStore.set target value with
  | error e =>
      rw [hset] at hwrite
      exact on_bind_of_error hwrite
  | ok written =>
      rw [hset] at hwrite
      exact on_bind_of_ok hwrite

theorem on_apply (h : s.Located) (effect : Effect) :
    (apply effect).on s = .some (s.settle (effect.apply s.toStore)) := by
  cases effect with
  | setInteger target value => exact h.on_assign target _
  | setFloat target value => exact h.on_assign target _
  | copyText target text =>
      rw [apply, on_bind_reading (·.readText? text) (h.run_readText? text), Effect.apply]
      cases s.toStore.getText text with
      | error e => rfl
      | ok held => exact h.on_assign target _
  | copyInteger target expression =>
      rw [apply, on_bind_reading (·.readScalar? expression) (h.run_readScalar? expression),
        Effect.apply]
      cases s.toStore.getScalar expression with
      | error e => rfl
      | ok held => exact h.on_assign target _
  | host request => rfl

/-- A derived variable that cannot be computed is written all the same, and one that cannot be
written is left. -/
theorem on_refreshOne (h : s.Located) (d : DerivedVariable) :
    (refreshOne d).on s =
      .some (.ok (d.refresh s.toStore).1, s.withSlots (d.refresh s.toStore).2) := by
  have hread := on_reading (d.recipe.compute? ·) (h.run_compute? d.recipe)
  have hvalue : (tryCatch (reading (d.recipe.compute? ·)) fun _ =>
      return .default d.recipe.kind : Mutation Value).on s =
        .some (.ok (d.recipe.value s.toStore), s) := by
    rw [Recipe.value]
    cases hfound : d.recipe.compute s.toStore with
    | error e =>
        rw [hfound] at hread
        exact on_tryCatch_of_error hread
    | ok value =>
        rw [hfound] at hread
        exact on_tryCatch_of_ok hread
  have hwrite := h.on_write d.id (d.recipe.value s.toStore)
  rw [refreshOne, on_bind_of_ok hvalue, DerivedVariable.refresh]
  cases hset : s.toStore.set d.id (d.recipe.value s.toStore) with
  | error e =>
      rw [hset] at hwrite
      exact on_tryCatch_of_error hwrite
  | ok written =>
      rw [hset] at hwrite
      exact on_tryCatch_of_ok hwrite

theorem on_foldlM_refreshNext (h : s.Located) (derived : List DerivedVariable)
    (changed : List VariableId) :
    (derived.foldlM refreshNext changed).on s =
      .some (.ok (changed ++ (s.toStore.refresh derived).1),
        s.withSlots (s.toStore.refresh derived).2) := by
  induction derived generalizing s changed with
  | nil =>
      rw [Store.refresh, List.append_nil]
      rfl
  | cons d derived ih =>
      rcases hfirst : d.refresh s.toStore with ⟨written, store⟩
      have hids : store.ids = s.ids := by
        rw [← Store.ids_refresh d s.toStore, hfirst]
      have hnext : (refreshNext changed d).on s =
          .some (.ok (if written then changed ++ [d.id] else changed), s.withSlots store) := by
        have hone := h.on_refreshOne d
        rw [hfirst] at hone
        rw [refreshNext, on_bind_of_ok hone]
        split <;> rfl
      rw [List.foldlM_cons, on_bind_of_ok hnext, Store.refresh, hfirst]
      refine (ih (h.of_ids hids) _).trans ?_
      cases written with
      | false => rfl
      | true =>
          rw [if_pos rfl, List.append_assoc]
          rfl

theorem on_refresh (h : s.Located) (derived : List DerivedVariable) :
    (refresh derived).on s =
      .some (.ok (s.toStore.refresh derived).1, s.withSlots (s.toStore.refresh derived).2) :=
  h.on_foldlM_refreshNext derived []

end Located

/-! ## Declarations -/

/-- A computation that returns a new store and never fails does the same in place. -/
def Settles (m : Mutation α) (s : IndexedStore) (done : Part (α × IndexedStore)) : Prop :=
  m.on s = done.map fun done => (.ok done.1, done.2)

theorem on_bind_of_settles {β : Type} {m : Mutation α} {f : α → Mutation β}
    {done : Part (α × IndexedStore)} (h : Settles m s done) :
    (m >>= f).on s = done.bind fun done => (f done.1).on done.2 := by
  rw [Settles, on] at h
  rw [on, ExceptT.run_bind, StateT.run_bind, h, Part.bind_eq_bind, Part.bind_map]
  rfl

/-- What is reported of a computation that does so. -/
theorem exists_of_settles {β : Type} {m : Mutation α} {report : α → β}
    {done : Part (α × IndexedStore)} {answer : Except StoreError β} {t : IndexedStore}
    (h : Settles m s done)
    (hstep : (do return report (← m) : Mutation β).on s = .some (answer, t)) :
    ∃ a, done = .some (a, t) ∧ answer = .ok (report a) := by
  rw [on_bind_of_settles h, Part.bind_eq_some_iff] at hstep
  obtain ⟨⟨a, u⟩, hdone, heq⟩ := hstep
  cases Part.some_inj.1 heq
  exact ⟨a, hdone, rfl⟩

theorem settles_allocate (s : IndexedStore) : Settles Mutation.allocate s s.allocate := by
  rw [Settles, Mutation.allocate, on_bind_of_ok on_get, on_bind_lift, IndexedStore.allocate,
    Part.bind_eq_bind, Part.map_bind]
  congr 1
  funext n
  rw [on_bind_of_ok (on_modify _)]
  exact (Part.map_some _ _).symm

theorem settles_declareMutable (s : IndexedStore) (value : Value) :
    Settles (Mutation.declareMutable value) s (s.declareMutable value) := by
  rw [Settles, Mutation.declareMutable, on_bind_of_settles s.settles_allocate,
    IndexedStore.declareMutable, Part.bind_eq_bind, Part.map_bind]
  congr 1
  funext done
  rw [on_bind_of_ok (on_modify _)]
  exact (Part.map_some _ _).symm

theorem settles_declare (s : IndexedStore) (value : Value) :
    Settles (Mutation.declare value) s (s.declare value) := by
  rw [Settles, Mutation.declare, on_bind_of_ok on_get, IndexedStore.declare]
  cases s.interned.lookup value.internKey with
  | some id => exact (Part.map_some _ _).symm
  | none =>
      dsimp only
      rw [on_bind_of_settles s.settles_allocate, Part.bind_eq_bind, Part.map_bind]
      congr 1
      funext done
      rw [on_bind_of_ok (on_modify _), on_bind_of_ok (on_modify _)]
      exact (Part.map_some _ _).symm

theorem on_insert (s : IndexedStore) (id : VariableId) (value : Value) :
    (Mutation.insert id value).on s = .some (match s.insert id value with
      | .ok t => (.ok (), t)
      | .error e => (.error e, s)) := by
  rw [Mutation.insert, on_bind_of_ok on_get, IndexedStore.insert]
  by_cases hid : s.contains id = true
  · rw [if_pos hid, if_pos hid]
    exact on_throw
  · rw [if_neg hid, if_neg hid, on_bind_of_ok (on_modify _)]
    exact on_modify _

/-! ## Uses -/

/-- What has been done by a use that is answered, told by what returns a new store. -/
inductive Does (s : IndexedStore) :
    StoreUse → Except StoreError StoreReply → IndexedStore → Prop
  | refused (use : StoreUse) (e : StoreError) : Does s use (.error e) s
  | declared {value : Value} {id : VariableId} {t : IndexedStore}
      (h : s.declare value = .some (id, t)) : Does s (.call (.declare value)) (.ok (.id id)) t
  | declaredMutable {value : Value} {id : VariableId} {t : IndexedStore}
      (h : s.declareMutable value = .some (id, t)) :
      Does s (.call (.declareMutable value)) (.ok (.id id)) t
  | inserted {id : VariableId} {value : Value} {t : IndexedStore} (h : s.insert id value = .ok t) :
      Does s (.call (.insert id value)) (.ok .done) t
  | named (name : String) (id : VariableId) :
      Does s (.call (.bindName name id)) (.ok .done) (s.bindName name id)
  | written {id : VariableId} {value : Value} {changed : Bool} {store : Store}
      (h : s.toStore.set id value = .ok (changed, store)) :
      Does s (.call (.set id value)) (.ok (.written changed)) (s.withSlots store)
  | applied {effect : Effect} {outcome : Outcome} {store : Store}
      (h : effect.apply s.toStore = .ok (outcome, store)) :
      Does s (.apply effect) (.ok (.outcome outcome)) (s.withSlots store)
  | refreshed (derived : List DerivedVariable) :
      Does s (.refresh derived) (.ok (.changed (s.toStore.refresh derived).1))
        (s.withSlots (s.toStore.refreshed derived))

/-- Where the index is right, a use does nothing else. -/
theorem Located.does {use : StoreUse} {answer : Except StoreError StoreReply} {t : IndexedStore}
    (h : s.Located) (hstep : use.mutation.on s = .some (answer, t)) : s.Does use answer t := by
  cases use with
  | call c =>
      cases c with
      | declare value =>
          obtain ⟨id, hdeclare, rfl⟩ := exists_of_settles (s.settles_declare value) hstep
          exact .declared hdeclare
      | declareMutable value =>
          obtain ⟨id, hdeclare, rfl⟩ := exists_of_settles (s.settles_declareMutable value) hstep
          exact .declaredMutable hdeclare
      | insert id value =>
          have hinsert := s.on_insert id value
          cases hresult : s.insert id value with
          | error e =>
              rw [hresult] at hinsert
              rw [StoreUse.mutation, on_bind_of_error hinsert] at hstep
              cases Part.some_inj.1 hstep
              exact .refused _ e
          | ok u =>
              rw [hresult] at hinsert
              rw [StoreUse.mutation, on_bind_of_ok hinsert] at hstep
              cases Part.some_inj.1 hstep
              exact .inserted hresult
      | bindName name id =>
          rw [StoreUse.mutation, on_bind_of_ok (on_modify _)] at hstep
          cases Part.some_inj.1 hstep
          exact .named name id
      | set id value =>
          rcases cases_of_settle (h.on_write id value) hstep with
            ⟨e, -, rfl, rfl⟩ | ⟨changed, store, hset, rfl, rfl⟩
          · exact .refused _ e
          · exact .written hset
  | apply effect =>
      rcases cases_of_settle (h.on_apply effect) hstep with
        ⟨e, -, rfl, rfl⟩ | ⟨outcome, store, heffect, rfl, rfl⟩
      · exact .refused _ e
      · exact .applied heffect
  | refresh derived =>
      rw [StoreUse.mutation, on_bind_of_ok (h.on_refresh derived)] at hstep
      cases Part.some_inj.1 hstep
      exact .refreshed derived

end IndexedStore

end Panel
