import Panel.Proofs.Guarded.Arena
import Panel.Proofs.Store.Uses

/-!
# Stores of documents

The store that a document is loaded into begins its search for a name at zero.  It does so only as
long as it has no slot, so that zero is given away at most once, as the first name of all.

* `IndexedStore.Loading` is what holds of a store while a document is loaded into it;
* `Arena.store_names` says which names the store of a document gives away.
-/

namespace Panel

namespace Store

theorem nextId_of_set {s t : Store} {id : VariableId} {value : Value} {changed : Bool}
    (h : s.set id value = .ok (changed, t)) : t.nextId = s.nextId := by
  obtain ⟨held, -, -, -, rfl⟩ := set_eq_ok.1 h
  rfl

theorem nextId_refreshed (derived : List DerivedVariable) (s : Store) :
    (s.refreshed derived).nextId = s.nextId := by
  induction derived generalizing s with
  | nil => rfl
  | cons d derived ih =>
      rw [refreshed_cons, ih, DerivedVariable.refresh]
      cases hset : s.set d.id (d.recipe.value s) with
      | error e => rfl
      | ok written => exact nextId_of_set hset

end Store

/-- The variable that a use has declared or, if it is to declare a constant, found declared. -/
def StoreUse.declared? : StoreUse → Except StoreError StoreReply → Option VariableId
  | call (.declare _), .ok (.id id) => some id
  | call (.declareMutable _), .ok (.id id) => some id
  | call (.insert id _), .ok .done => some id
  | _, _ => none

namespace IndexedStore

open Mutation

variable {s t : IndexedStore} {use : StoreUse} {answer : Except StoreError StoreReply}
  {id : VariableId} {value : Value} {n m : UInt32}
  {events : List (StoreUse × Except StoreError StoreReply)} {log : List (VariableId × Value)}

/-! ## Where the search begins -/

/-- The search begins at zero exactly as long as there is no name. -/
def Marks (s : IndexedStore) : Prop := s.nextId = 0 ↔ s.ids = []

theorem marks_blank : blank.Marks := iff_of_true rfl rfl

/-- The name that is given away is zero if it is the first, and only then. -/
theorem Marks.number_eq_zero_iff (hmarks : s.Marks) (hs : s.Located)
    (h : s.allocate = .some (id, t)) : id.number = 0 ↔ s.ids = [] := by
  obtain ⟨hsearch, -⟩ := allocate_eq_some h
  refine Iff.trans ?_ hmarks
  constructor
  · exact (of_mem_search hsearch).2
  · intro hn
    have hnone : s.contains ⟨0⟩ = false := by
      rw [← Bool.not_eq_true, hs.contains_iff, hmarks.1 hn]
      exact List.not_mem_nil
    rw [hn, search_of_free hnone] at hsearch
    exact Part.mem_some_iff.1 hsearch

/-- A name that is inserted comes last, and the next search does not begin at zero. -/
theorem appends_of_insert (h : s.insert id value = .ok t) :
    t.nextId ≠ 0 ∧ t.ids = s.ids ++ [id] ∧ t.interned = s.interned := by
  rw [insert, Result.ite_error_eq_ok, Result.ok_eq_ok] at h
  obtain ⟨-, rfl⟩ := h
  refine ⟨?_, Store.ids_push s.toStore ⟨id, value, false⟩, rfl⟩
  have habove : (if id.number = 0xFFFFFFFF then id.number else id.number + 1) ≠ 0 := by
    split
    · next hlast => simp [hlast]
    · grind
  have hraise {above : UInt32} (h : above ≠ 0) :
      (if s.nextId < above then above else s.nextId) ≠ 0 := by
    split
    · exact h
    · intro hzero
      have hpos := UInt32.pos_iff_ne_zero.2 h
      grind
  exact hraise habove

/-! ## Names in use -/

/-- A use that declares nothing new. -/
structure Stays (s : IndexedStore) (use : StoreUse) (answer : Except StoreError StoreReply)
    (t : IndexedStore) : Prop where
  nextId : t.nextId = s.nextId
  ids : t.ids = s.ids
  interned : t.interned = s.interned
  declared : ∀ id, use.declared? answer = some id → id ∈ s.ids

/-- A use that declares one new variable. -/
structure Grows (s : IndexedStore) (use : StoreUse) (answer : Except StoreError StoreReply)
    (id : VariableId) (t : IndexedStore) : Prop where
  nextId : t.nextId ≠ 0
  ids : t.ids = s.ids ++ [id]
  interned : t.interned = s.interned ∨
    ∃ value, use = .call (.declare value) ∧ t.interned = s.interned.insert value.internKey id
  declared : use.declared? answer = some id

theorem Stays.of_store {store : Store} (hnext : store.nextId = s.nextId) (hids : store.ids = s.ids)
    (hnone : use.declared? answer = none) : s.Stays use answer (s.withSlots store) where
  nextId := hnext
  ids := hids
  interned := rfl
  declared := by simp [hnone]

theorem Grows.marks (h : s.Grows use answer id t) : t.Marks := by
  rw [Marks, h.ids]
  exact iff_of_false h.nextId (by simp)

theorem Sound.cases_of_declare (h : s.Sound) (hdeclare : s.declare value = .some (id, t)) :
    s.Stays (.call (.declare value)) (.ok (.id id)) t ∨
      ∃ new, s.Grows (.call (.declare value)) (.ok (.id id)) new t := by
  rcases declare_cases hdeclare with ⟨hlookup, rfl⟩ | ⟨u, hallocate, rfl⟩
  · obtain ⟨held, -, hslot⟩ := h.interned _ _ hlookup
    refine .inl ⟨rfl, rfl, rfl, ?_⟩
    rintro _ ⟨⟩
    exact List.mem_map_of_mem hslot
  · obtain ⟨-, rfl⟩ := allocate_eq_some hallocate
    exact .inr ⟨id, Store.successor_ne_zero _, Store.ids_push s.toStore _,
      .inr ⟨value, rfl, rfl⟩, rfl⟩

theorem grows_of_declareMutable (hdeclare : s.declareMutable value = .some (id, t)) :
    s.Grows (.call (.declareMutable value)) (.ok (.id id)) id t := by
  obtain ⟨u, hallocate, rfl⟩ := declareMutable_eq_some hdeclare
  obtain ⟨-, rfl⟩ := allocate_eq_some hallocate
  exact ⟨Store.successor_ne_zero _, Store.ids_push s.toStore _, .inl rfl, rfl⟩

theorem grows_of_insert (hinsert : s.insert id value = .ok t) :
    s.Grows (.call (.insert id value)) (.ok .done) id t := by
  obtain ⟨hnext, hids, hinterned⟩ := appends_of_insert hinsert
  exact ⟨hnext, hids, .inl hinterned, rfl⟩

/-- A use declares one new variable or none. -/
theorem Sound.cases_of_step (h : s.Sound) (hstep : use.mutation.on s = .some (answer, t)) :
    s.Stays use answer t ∨ ∃ id, s.Grows use answer id t := by
  cases h.located.does hstep with
  | refused _ e =>
      have hnone : use.declared? (.error e) = none := by
        rw [StoreUse.declared?] <;> nofun
      exact .inl (.of_store rfl rfl hnone)
  | declared hdeclare => exact h.cases_of_declare hdeclare
  | declaredMutable hdeclare => exact .inr ⟨_, grows_of_declareMutable hdeclare⟩
  | inserted hinsert => exact .inr ⟨_, grows_of_insert hinsert⟩
  | named name id => exact .inl (.of_store rfl rfl rfl)
  | written hset => exact .inl (.of_store (Store.nextId_of_set hset) (Store.ids_of_set hset) rfl)
  | applied heffect =>
      rcases Effect.apply_eq_ok heffect with
        ⟨request, -, -, rfl⟩ | ⟨target, value, changed, -, -, -, hset⟩
      · exact .inl (.of_store rfl rfl rfl)
      · exact .inl (.of_store (Store.nextId_of_set hset) (Store.ids_of_set hset) rfl)
  | refreshed derived =>
      exact .inl (.of_store (Store.nextId_refreshed derived _) (Store.ids_refreshed derived _) rfl)

/-! ## Any uses -/

theorem Uses.marks (h : Uses s events log t) (hs : s.Sound) (hmarks : s.Marks) : t.Marks := by
  induction h with
  | none => exact hmarks
  | step before step ih =>
      rcases (before.advances hs).1.cases_of_step step with hstays | ⟨id, hgrows⟩
      · rwa [Marks, hstays.nextId, hstays.ids]
      · exact hgrows.marks

/-- The names in use are those from before and those that the uses have declared. -/
theorem Uses.mem_ids_iff (h : Uses s events log t) (hs : s.Sound) :
    id ∈ t.ids ↔ id ∈ s.ids ∨ id ∈ events.filterMap fun event => event.1.declared? event.2 := by
  induction h with
  | none => simp
  | @step events log t use answer u before step ih =>
      rw [List.filterMap_append, List.mem_append, ← or_assoc, ← ih]
      rcases (before.advances hs).1.cases_of_step step with hstays | ⟨new, hgrows⟩
      · have hold : id ∈ [(use, answer)].filterMap (fun event => event.1.declared? event.2) →
            id ∈ t.ids := by
          intro hid
          exact hstays.declared id (by simpa using hid)
        rw [hstays.ids, or_iff_left_of_imp hold]
      · rw [hgrows.ids, List.mem_append]
        simp [hgrows.declared]

/-- What the table of constants has for a value changes only by a use that declares the value. -/
theorem Uses.lookup_interned (h : Uses s events log t) (hs : s.Sound)
    (hnew : ∀ event ∈ events, event.1 ≠ .call (.declare value)) :
    t.interned.lookup value.internKey = s.interned.lookup value.internKey := by
  induction h with
  | none => rfl
  | @step events log t use answer u before step ih =>
      rw [List.forall_mem_append, List.forall_mem_singleton] at hnew
      rw [← ih hnew.1]
      rcases (before.advances hs).1.cases_of_step step with hstays | ⟨id, hgrows⟩
      · rw [hstays.interned]
      · rcases hgrows.interned with hsame | ⟨other, rfl, hinsert⟩
        · rw [hsame]
        · have hkey : value.internKey ≠ other.internKey := by
            intro hkey
            rw [Value.internKey_injective hkey] at hnew
            exact hnew.2 rfl
          rw [hinsert, AList.lookup_insert_ne hkey]

/-! ## New names -/

/-- The use is answered with a new name, which is zero if it is the first, and only then. -/
def NamesAnew (s : IndexedStore) (use : StoreUse) : Prop :=
  ∃ id t, use.mutation.on s = .some (.ok (.id id), t) ∧ id ∉ s.ids ∧ (id.number = 0 ↔ s.ids = [])

theorem Sound.exists_new_name (h : s.Sound) (hmarks : s.Marks) (hroom : s.size + 1 < 2 ^ 32) :
    ∃ id t, s.allocate = .some (id, t) ∧ id ∉ s.ids ∧ (id.number = 0 ↔ s.ids = []) := by
  obtain ⟨n, hsearch⟩ := h.located.exists_search hroom s.nextId
  have hallocate : s.allocate = .some (⟨n⟩, { s with nextId := Store.successor n }) := by
    rw [allocate, hsearch]
    exact Part.bind_some _ _
  exact ⟨_, _, hallocate, (h.located.of_allocate hallocate).1,
    hmarks.number_eq_zero_iff h.located hallocate⟩

theorem Sound.namesAnew_declareMutable (h : s.Sound) (hmarks : s.Marks)
    (hroom : s.size + 1 < 2 ^ 32) (value : Value) :
    s.NamesAnew (.call (.declareMutable value)) := by
  obtain ⟨id, t, hallocate, hid⟩ := h.exists_new_name hmarks hroom
  obtain ⟨u, hdeclare⟩ : ∃ u, s.declareMutable value = .some (id, u) := by
    rw [IndexedStore.declareMutable, hallocate]
    exact ⟨_, Part.bind_some _ _⟩
  refine ⟨id, u, ?_, hid⟩
  rw [StoreUse.mutation, on_bind_of_settles (s.settles_declareMutable value), hdeclare]
  exact Part.bind_some _ _

theorem Sound.namesAnew_declare (h : s.Sound) (hmarks : s.Marks) (hroom : s.size + 1 < 2 ^ 32)
    (hnew : s.interned.lookup value.internKey = none) : s.NamesAnew (.call (.declare value)) := by
  obtain ⟨id, t, hallocate, hid⟩ := h.exists_new_name hmarks hroom
  obtain ⟨u, hdeclare⟩ : ∃ u, s.declare value = .some (id, u) := by
    rw [IndexedStore.declare, hnew, hallocate]
    exact ⟨_, Part.bind_some _ _⟩
  refine ⟨id, u, ?_, hid⟩
  rw [StoreUse.mutation, on_bind_of_settles (s.settles_declare value), hdeclare]
  exact Part.bind_some _ _

/-! ## Loading -/

/-- What a store is while a document is loaded into it. -/
structure Loading (s : IndexedStore) : Prop where
  sound : s.Sound
  marks : s.Marks
  interned : s.interned = ∅

namespace Loading

theorem blank : IndexedStore.blank.Loading where
  sound := .blank
  marks := marks_blank
  interned := rfl

theorem insert (h : s.Loading) (hinsert : s.insert id value = .ok t) : t.Loading where
  sound := (h.sound.proceeds_insert hinsert).sound
  marks := (grows_of_insert hinsert).marks
  interned := (appends_of_insert hinsert).2.2.trans h.interned

theorem bindName (h : s.Loading) (name : String) (id : VariableId) :
    (s.bindName name id).Loading where
  sound := h.sound.bindName name id
  marks := h.marks
  interned := h.interned

end Loading

end IndexedStore

/-! ## Documents -/

namespace Arena

variable {maxDepth : Nat} {a b : Arena} {op : Operation} {operations : List Operation}

theorem insert_of_declare {id : VariableId} {value : Value} (h : a.declare id value = .ok b) :
    a.store.insert id value = .ok b.store := by
  unfold declare at h
  cases hinsert : a.store.insert id value with
  | error e =>
      rw [hinsert] at h
      contradiction
  | ok store =>
      rw [hinsert] at h
      cases h
      rfl

theorem store_of_component {id : ComponentId} {kind : ComponentKind}
    (h : (a.component? maxDepth id kind).run = some (.ok b)) : b.store = a.store := by
  unfold component? at h
  -- past the four refusals
  split at h
  · cases h
  split at h
  · cases h
  split at h
  · cases h
  split at h
  · cases h
  obtain ⟨nodes, -, hdone⟩ := Checked.exists_of_run_bind h
  cases hdone
  rfl

theorem store_of_close (h : a.close = .ok b) : b.store = a.store := by
  rw [close, Result.ite_error_eq_ok] at h
  obtain ⟨-, h⟩ := h
  split at h
  · contradiction
  · cases h
    rfl

/-- What an operation does to the store. -/
theorem store_of_step (h : (step? maxDepth a op).run = some (.ok b)) :
    b.store = a.store ∨ (∃ name id, b.store = a.store.bindName name id) ∨
      ∃ id value, a.store.insert id value = .ok b.store := by
  cases op with
  | value id value => exact .inr (.inr ⟨id, value, insert_of_declare (Option.some.inj h)⟩)
  | name id name =>
      cases h
      exact .inr (.inl ⟨name, id, rfl⟩)
  | derived d =>
      obtain ⟨c, hc, hd⟩ := Result.bind_eq_ok.1 (Option.some.inj h)
      cases hd
      have hinsert : a.store.insert d.id _ = .ok c.store := insert_of_declare hc
      exact .inr (.inr ⟨_, _, hinsert⟩)
  | component id kind => exact .inl (store_of_component h)
  | containerEnd => exact .inl (store_of_close (Option.some.inj h))
  | modifier m =>
      cases h
      exact .inl rfl
  | action declared =>
      have haction : a.action declared = .ok b := Option.some.inj h
      rw [Arena.action, Result.ite_error_eq_ok, Result.ok_eq_ok] at haction
      obtain ⟨-, rfl⟩ := haction
      exact .inl rfl

open IndexedStore Mutation

theorem loading_of_step (h : a.store.Loading)
    (hstep : (step? maxDepth a op).run = some (.ok b)) : b.store.Loading := by
  rcases store_of_step hstep with hstore | ⟨name, id, hstore⟩ | ⟨id, value, hinsert⟩
  · rwa [hstore]
  · rw [hstore]
    exact h.bindName name id
  · exact h.insert hinsert

theorem loading_of_foldlM (h : a.store.Loading)
    (hrun : (operations.foldlM (step? maxDepth) a).run = some (.ok b)) : b.store.Loading := by
  induction operations generalizing a with
  | nil =>
      cases hrun
      exact h
  | cons op operations ih =>
      rw [List.foldlM_cons] at hrun
      obtain ⟨c, hstep, hrest⟩ := Checked.exists_of_run_bind hrun
      exact ih (loading_of_step h hstep) hrest

theorem eq_of_finish (h : a.finish = .ok b) : b = a := by
  rw [finish, Result.ite_error_eq_ok, Result.ite_error_eq_ok, Result.ite_error_eq_ok] at h
  obtain ⟨-, -, -, h⟩ := h
  split at h
  · contradiction
  · exact (Except.ok.inj h).symm

theorem loading_of_ofOperations? (h : (ofOperations? operations maxDepth).run = some (.ok b)) :
    b.store.Loading := by
  obtain ⟨c, hrun, hrest⟩ := Checked.exists_of_run_bind h
  have hfinish : c.finish = .ok b := Option.some.inj hrest
  rw [eq_of_finish hfinish]
  exact loading_of_foldlM .blank hrun

/-- The store of a document never gives away a name of the document or one that it has given away
before, and zero only as the first name of all, when the document has none. -/
theorem store_names {content : Content}
    (h : Content.ofOperations operations maxDepth = .ok content) :
    ∃ b, (ofOperations? operations maxDepth).run = some (.ok b) ∧
      b.store.toStore = content.store ∧
      ∀ events log s, Uses b.store events log s → s.size + 1 < 2 ^ 32 →
        s.ids.Nodup ∧
        (∀ id, id ∈ s.ids ↔ id ∈ operations.filterMap Operation.declaredVariable? ∨
          id ∈ events.filterMap fun event => event.1.declared? event.2) ∧
        (∀ value, s.NamesAnew (.call (.declareMutable value))) ∧
        ∀ value, (∀ event ∈ events, event.1 ≠ .call (.declare value)) →
          s.NamesAnew (.call (.declare value)) := by
  rcases ofOperations?_cases operations maxDepth with ⟨e, hplain, -⟩ | ⟨_, b, hplain, hrun, hholds⟩
  · rw [h] at hplain
    contradiction
  cases h.symm.trans hplain
  refine ⟨b, hrun, hholds.store, fun events log s huses hroom => ?_⟩
  obtain ⟨hsound, hmarks, hinterned⟩ := loading_of_ofOperations? hrun
  have hafter : s.Sound := (huses.advances hsound).1
  have hafterMarks : s.Marks := huses.marks hsound hmarks
  have hids : b.store.ids = operations.filterMap Operation.declaredVariable? := by
    obtain ⟨a, hrun, hfinish⟩ := Content.ofOperations_eq_ok.1 h
    obtain ⟨-, -, root, -, -, rfl⟩ := Assembly.finish_eq_ok.1 hfinish
    rw [hholds.store]
    exact (Assembly.trace_of_foldlM hrun).tables.store
  refine ⟨hafter.located.ids, fun id => ?_, hafter.namesAnew_declareMutable hafterMarks hroom,
    fun value hnew => hafter.namesAnew_declare hafterMarks hroom ?_⟩
  · rw [huses.mem_ids_iff hsound, hids]
  · rw [huses.lookup_interned hsound hnew, hinterned, AList.lookup_empty]

/-- After the greatest name of all the search goes on with one. -/
theorem store_names_greatest :
    ∃ b, (ofOperations? [.value ⟨0xFFFFFFFF⟩ (.int 5), .component ⟨1⟩ (.box ⟨.start, .start⟩),
        .containerEnd] 64).run = some (.ok b) ∧
      ∃ id t, (StoreUse.call (.declareMutable (.int 7))).mutation.on b.store =
          .some (.ok (.id id), t) ∧ id ≠ ⟨0xFFFFFFFF⟩ ∧ id.number ≠ 0 := by
  obtain ⟨b, hrun, hstore, hnames⟩ := @store_names 64 [.value ⟨0xFFFFFFFF⟩ (.int 5),
    .component ⟨1⟩ (.box ⟨.start, .start⟩), .containerEnd] _ rfl
  have hids : b.store.ids = [⟨0xFFFFFFFF⟩] := by rw [hstore]; rfl
  have hsize : b.store.size + 1 < 2 ^ 32 := by rw [hstore]; decide
  obtain ⟨-, -, hmutable, -⟩ := hnames [] [] b.store .none hsize
  obtain ⟨id, t, hdeclare, hid, hzero⟩ := hmutable (.int 7)
  rw [hids] at hid hzero
  exact ⟨b, hrun, id, t, hdeclare, by simpa using hid, by simpa using hzero⟩

/-- A document without variables leaves zero to be given away, which an empty store of an author
does not. -/
theorem store_names_zero :
    ∃ content, Content.ofOperations [.component ⟨1⟩ (.box ⟨.start, .start⟩), .containerEnd] 64 =
        .ok content ∧
      (content.store.declare (.int 1)).1 = ⟨0⟩ ∧
      (content.store.declareMutable (.int 1)).1 = ⟨0⟩ ∧
      (Store.new.declare (.int 1)).1 = ⟨1⟩ ∧
      (Store.new.declareMutable (.int 1)).1 = ⟨1⟩ :=
  ⟨_, rfl, by decide, by decide, by decide, by decide⟩

end Arena

end Panel
