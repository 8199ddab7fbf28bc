import Panel.Proofs.Store.Indexed

/-!
# Any calls on a new store

The constants of a store are those that its calls have declared, because no call changes or removes
a slot of a constant.  With the consistency of the tables, which each call keeps, this says what
names the calls on a new store give away, and what its tables hold.
-/

namespace Panel

namespace Store

variable {s t : Store} {id : VariableId} {value : Value} {c : StoreCall}

/-- A slot holds a constant after a call if it did before, or if the call is to declare that value
and answers with that name. -/
theorem constant_mem_call (hnodup : s.ids.Nodup) (c : StoreCall) (id : VariableId) (value : Value) :
    (⟨id, value, true⟩ : Slot) ∈ (s.call c).2.slots ↔
      ⟨id, value, true⟩ ∈ s.slots ∨ c = .declare value ∧ (s.call c).1 = .id id := by
  cases c with
  | declare other =>
      rw [call]
      cases hinterned : s.interned? other with
      | some found =>
          rw [declare_of_some hinterned]
          constructor
          · exact .inl
          · rintro (hslot | ⟨hdeclare, hanswer⟩)
            · exact hslot
            · obtain rfl := StoreCall.declare.inj hdeclare
              obtain rfl := StoreAnswer.id.inj hanswer
              exact mem_slots_of_interned? hinterned
      | none =>
          rw [declare_of_none hinterned]
          show _ ∈ s.slots ++ [_] ↔ _
          simp [eq_comm, and_comm]
  | declareMutable other =>
      show _ ∈ s.slots ++ [_] ↔ _
      simp
  | insert other held =>
      rw [call]
      cases hinsert : s.insert other held with
      | error e => simp
      | ok t => simp [(slots_of_insert hinsert).2]
  | set other held =>
      rw [call]
      cases hset : s.set other held with
      | error e => simp
      | ok result =>
          obtain ⟨changed, t⟩ := result
          obtain ⟨old, hslot, -, -, rfl⟩ := set_eq_ok.1 hset
          simp [constant_mem_write hnodup hslot]
  | bindName name other => simp [call, bindName]

theorem run_concat (s : Store) (calls : List StoreCall) (c : StoreCall) :
    s.run (calls ++ [c]) =
      ((s.run calls).1 ++ [((s.run calls).2.call c).1], ((s.run calls).2.call c).2) := by
  induction calls generalizing s with
  | nil => rfl
  | cons first calls ih =>
      simp only [List.cons_append, run, ih]

end Store

namespace IndexedStore

variable {s t : IndexedStore} {id : VariableId} {value : Value}
  {events : List (StoreCall × StoreAnswer)}

/-- Calls on a new store with the answers to them, and the store that they lead to. -/
inductive History : List (StoreCall × StoreAnswer) → IndexedStore → Prop where
  | new : History [] new
  | call {events : List (StoreCall × StoreAnswer)} {s t : IndexedStore} {c : StoreCall}
      {answer : StoreAnswer} (before : History events s) (step : s.call c = .some (answer, t)) :
      History (events ++ [(c, answer)]) t

/-- What is known of a store once calls have been answered. -/
structure Recorded (events : List (StoreCall × StoreAnswer)) (s : IndexedStore) : Prop where
  consistent : s.Consistent
  run : Store.run .new (events.map (·.1)) = (events.map (·.2), s.toStore)
  constants : ∀ id value,
    (⟨id, value, true⟩ : Slot) ∈ s.slots ↔ (.declare value, .id id) ∈ events

theorem recorded_new : Recorded [] new where
  consistent := consistent_new
  run := rfl
  constants := by
    intro id value
    exact iff_of_false List.not_mem_nil List.not_mem_nil

/-- One more call with its answer. -/
theorem Recorded.call (h : Recorded events s) (hroom : s.size + 1 < 2 ^ 32) {c : StoreCall}
    {answer : StoreAnswer} (hstep : s.call c = .some (answer, t)) :
    Recorded (events ++ [(c, answer)]) t := by
  obtain ⟨t', hcall, hstore, hconsistent⟩ := h.consistent.call_follows hroom c
  obtain ⟨rfl, rfl⟩ : answer = (s.toStore.call c).1 ∧ t = t' := by
    simpa using hstep.symm.trans hcall
  refine ⟨hconsistent, ?_, ?_⟩
  · rw [List.map_append, List.map_append, List.map_singleton, List.map_singleton,
      Store.run_concat, h.run, hstore]
  · intro id value
    rw [hstore, Store.constant_mem_call h.consistent.ids, h.constants, List.mem_append,
      List.mem_singleton, Prod.mk.injEq]
    exact or_congr_right (and_congr eq_comm eq_comm)

/-! ## Room -/

theorem size_le_push (h : t.slots = s.slots) (slot : Slot) : s.size ≤ (t.push slot).size := by
  show s.slots.length ≤ (t.slots ++ [slot]).length
  rw [h, List.length_append]
  exact Nat.le_add_right ..

theorem size_le_of_declare (h : s.declare value = .some (id, t)) : s.size ≤ t.size := by
  rcases declare_cases h with ⟨-, rfl⟩ | ⟨u, hallocate, rfl⟩
  · exact Nat.le_refl _
  · obtain ⟨-, rfl⟩ := allocate_eq_some hallocate
    exact size_le_push rfl _

theorem size_le_of_declareMutable (h : s.declareMutable value = .some (id, t)) :
    s.size ≤ t.size := by
  obtain ⟨u, hallocate, rfl⟩ := declareMutable_eq_some h
  obtain ⟨-, rfl⟩ := allocate_eq_some hallocate
  exact size_le_push rfl _

theorem size_le_of_insert (h : s.insert id value = .ok t) : s.size ≤ t.size := by
  rw [insert, Result.ite_error_eq_ok, Result.ok_eq_ok] at h
  rw [h.2]
  exact size_le_push rfl _

theorem size_le_of_set {changed : Bool} (h : s.set id value = .some (.ok (changed, t))) :
    s.size ≤ t.size := by
  rw [set] at h
  cases hindex : s.index.lookup id with
  | none =>
      rw [hindex] at h
      cases Part.some_inj.1 h
  | some i =>
      rw [hindex] at h
      simp only [Part.bind_eq_bind, Part.bind_eq_some_iff] at h
      obtain ⟨slot, -, hset⟩ := h
      split_ifs at hset <;> cases Part.some_inj.1 hset
      exact List.length_set.ge

/-- No call gives slots back. -/
theorem size_le_of_call {c : StoreCall} {answer : StoreAnswer}
    (h : s.call c = .some (answer, t)) : s.size ≤ t.size := by
  cases c with
  | declare value =>
      rw [call, Part.bind_eq_bind, Part.bind_eq_some_iff] at h
      obtain ⟨⟨id, u⟩, hdeclare, heq⟩ := h
      cases Part.some_inj.1 heq
      exact size_le_of_declare hdeclare
  | declareMutable value =>
      rw [call, Part.bind_eq_bind, Part.bind_eq_some_iff] at h
      obtain ⟨⟨id, u⟩, hdeclare, heq⟩ := h
      cases Part.some_inj.1 heq
      exact size_le_of_declareMutable hdeclare
  | insert id value =>
      rw [call] at h
      cases hinsert : s.insert id value with
      | error e =>
          rw [hinsert] at h
          cases Part.some_inj.1 h
          exact Nat.le_refl _
      | ok u =>
          rw [hinsert] at h
          cases Part.some_inj.1 h
          exact size_le_of_insert hinsert
  | set id value =>
      rw [call, Part.bind_eq_bind, Part.bind_eq_some_iff] at h
      obtain ⟨result, hset, heq⟩ := h
      cases result with
      | error e =>
          cases Part.some_inj.1 heq
          exact Nat.le_refl _
      | ok result =>
          cases Part.some_inj.1 heq
          exact size_le_of_set hset
  | bindName name id =>
      cases Part.some_inj.1 h
      exact Nat.le_refl _

theorem History.recorded (h : History events s) (hroom : s.size < 2 ^ 32 - 1) :
    Recorded events s := by
  induction h with
  | new => exact recorded_new
  | call before step ih =>
      have hsize := size_le_of_call step
      exact (ih (by omega)).call (by omega) step

/-! ## What the calls on a new store do -/

theorem declareMutable_fresh (h : s.Consistent) (hroom : s.size + 1 < 2 ^ 32) (value : Value) :
    ∃ id t, s.declareMutable value = .some (id, t) ∧ id.number ≠ 0 ∧ id ∉ s.ids := by
  obtain ⟨t, hdeclare, -, -⟩ := h.declareMutable_follows hroom value
  exact ⟨_, t, hdeclare, Store.allocate_ne_zero h.nextId, Store.allocate_notMem h.nextId hroom⟩

theorem declare_fresh (h : s.Consistent) (hroom : s.size + 1 < 2 ^ 32)
    (hnew : s.interned.lookup value.internKey = none) :
    ∃ id t, s.declare value = .some (id, t) ∧ id.number ≠ 0 ∧ id ∉ s.ids := by
  obtain ⟨t, hdeclare, -, -⟩ := h.declare_follows hroom value
  rw [h.lookup_interned] at hnew
  rw [Store.declare_of_none hnew] at hdeclare
  exact ⟨_, t, hdeclare, Store.allocate_ne_zero h.nextId, Store.allocate_notMem h.nextId hroom⟩

/-- Two declarations have answered with the same name exactly if they were of the same value. -/
theorem Recorded.declared_iff (h : Recorded events s) {v w : Value} {a b : VariableId}
    (hv : (.declare v, .id a) ∈ events) (hw : (.declare w, .id b) ∈ events) : a = b ↔ v = w := by
  have hslot := (h.constants a v).2 hv
  have hslot' := (h.constants b w).2 hw
  constructor
  · intro hid
    exact congrArg Slot.value (List.inj_on_of_nodup_map h.consistent.ids hslot hslot' hid)
  · rintro rfl
    have ha := (h.consistent.interned _ a).2 ⟨v, rfl, hslot⟩
    have hb := (h.consistent.interned _ b).2 ⟨v, rfl, hslot'⟩
    exact Option.some.inj (ha.symm.trans hb)

/-- After any calls on a new store that leave room for a name, the store is the one that the same
calls lead to without tables, with the same answers.  No two slots have the same name, and the
index has each name at its position and nothing else.  The next call comes to an end, and the name
that it gives away is not zero and was not in use, unless it is that of an equal constant.  What the
table of constants has for a key is the answer to a declaration of a value with that key, and that
constant still holds the value.  Declarations have been answered with the same name exactly if their
values are the same. -/
theorem history_consistent (h : History events s) (hroom : s.size < 2 ^ 32 - 1) :
    Store.run .new (events.map (·.1)) = (events.map (·.2), s.toStore) ∧
      s.ids.Nodup ∧
      (∀ id i, s.index.lookup id = some i ↔ s.ids[i]? = some id) ∧
      (∀ c, ∃ answer t, s.call c = .some (answer, t)) ∧
      (∀ value, ∃ id t, s.declareMutable value = .some (id, t) ∧ id.number ≠ 0 ∧ id ∉ s.ids) ∧
      (∀ value, s.interned.lookup value.internKey = none →
        ∃ id t, s.declare value = .some (id, t) ∧ id.number ≠ 0 ∧ id ∉ s.ids) ∧
      (∀ key id, s.interned.lookup key = some id → ∃ value, value.internKey = key ∧
        (.declare value, .id id) ∈ events ∧ (⟨id, value, true⟩ : Slot) ∈ s.slots) ∧
      ∀ v w a b, (.declare v, .id a) ∈ events → (.declare w, .id b) ∈ events →
        (a = b ↔ v = w) := by
  have hrecorded := h.recorded hroom
  have hconsistent := hrecorded.consistent
  have hroom' : s.size + 1 < 2 ^ 32 := by omega
  refine ⟨hrecorded.run, hconsistent.ids, hconsistent.index, ?_,
    declareMutable_fresh hconsistent hroom', fun value => declare_fresh hconsistent hroom', ?_,
    fun v w a b => hrecorded.declared_iff⟩
  · intro c
    obtain ⟨t, hcall, -, -⟩ := hconsistent.call_follows hroom' c
    exact ⟨_, t, hcall⟩
  · intro key id hlookup
    obtain ⟨value, hkey, hslot⟩ := (hconsistent.interned key id).1 hlookup
    exact ⟨value, hkey, (hrecorded.constants id value).1 hslot, hslot⟩

/-- After the highest name has been taken, the first name that is given away is one. -/
theorem history_consistent_wrapped :
    ∃ s, History [(.insert ⟨0xFFFFFFFF⟩ (.int 5), .done), (.declare (.int 1), .id ⟨1⟩),
        (.declare (.int 1), .id ⟨1⟩)] s ∧ s.size < 2 ^ 32 - 1 ∧ s.ids.Nodup ∧
      (∃ id t, s.declareMutable (.int 1) = .some (id, t) ∧ id.number ≠ 0 ∧ id ∉ s.ids) ∧
      ((⟨1⟩ : VariableId) = ⟨1⟩ ↔ Value.int 1 = .int 1) := by
  let s : IndexedStore :=
    { new.push ⟨⟨0xFFFFFFFF⟩, .int 5, false⟩ with nextId := 0xFFFFFFFF }
  let t : IndexedStore :=
    { s.push ⟨⟨1⟩, .int 1, true⟩ with
      nextId := 2, interned := s.interned.insert (.int 1) ⟨1⟩ }
  have hdeclare : s.call (.declare (.int 1)) = .some (.id ⟨1⟩, t) := by
    have htaken : s.contains ⟨0xFFFFFFFF⟩ = true := by decide
    have hfree : s.contains ⟨1⟩ = false := by decide
    have hsearch : s.search s.nextId = .some 1 :=
      (search_of_taken htaken).trans (search_of_free hfree)
    have hnew : s.interned.lookup (Value.int 1).internKey = none := rfl
    have hallocate : s.allocate = .some (⟨1⟩, { s with nextId := 2 }) := by
      rw [allocate, hsearch]
      exact Part.bind_some _ _
    rw [call, declare, hnew, hallocate]
    simp only [Part.bind_eq_bind, Part.bind_some]
    exact Part.bind_some _ _
  have hagain : t.call (.declare (.int 1)) = .some (.id ⟨1⟩, t) := by
    have hfound : t.interned.lookup (Value.int 1).internKey = some ⟨1⟩ := by decide
    rw [call, declare, hfound]
    exact Part.bind_some _ _
  have hhistory : History [(.insert ⟨0xFFFFFFFF⟩ (.int 5), .done), (.declare (.int 1), .id ⟨1⟩),
      (.declare (.int 1), .id ⟨1⟩)] t :=
    .call (.call (.call .new rfl) hdeclare) hagain
  have hroom : t.size < 2 ^ 32 - 1 := by
    show 2 < 2 ^ 32 - 1
    decide
  obtain ⟨-, hids, -, -, hmutable, -, -, hsame⟩ := history_consistent hhistory hroom
  have hsecond : (StoreCall.declare (.int 1), StoreAnswer.id ⟨1⟩) ∈
      [(StoreCall.insert ⟨0xFFFFFFFF⟩ (.int 5), StoreAnswer.done), (.declare (.int 1), .id ⟨1⟩),
        (.declare (.int 1), .id ⟨1⟩)] := by decide
  exact ⟨t, hhistory, hroom, hids, hmutable _, hsame _ _ _ _ hsecond hsecond⟩

end IndexedStore

end Panel
