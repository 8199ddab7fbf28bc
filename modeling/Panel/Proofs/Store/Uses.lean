import Panel.Proofs.Store.Allocation
import Panel.Proofs.Store.Kept

/-!
# Any uses of a store

Calls, actions and rounds of derived variables, one after the other and in any order, only move a
store ahead.  Each of them needs no more than that the index leads to the slots and that what the
table of constants has is a constant of that value, and leaves it so.
-/

namespace Panel

namespace IndexedStore

open Mutation

variable {s t : IndexedStore} {use : StoreUse} {answer : Except StoreError StoreReply}
  {id : VariableId} {value : Value} {slot : Slot} {n m : UInt32} {log : List (VariableId × Value)}

/-! ## New names -/

/-- A search ends at a name that the index does not have, and at zero only if it begins there. -/
theorem of_mem_search (h : m ∈ s.search n) : s.contains ⟨m⟩ = false ∧ (m = 0 → n = 0) := by
  -- by induction on the names that are tried, of which `k` is the present one
  refine PFun.fixInduction h fun k hk ih => ?_
  cases hcontains : s.contains ⟨k⟩ with
  | true =>
      obtain ⟨hfree, hzero⟩ := ih (Store.successor k) (by
        rw [hcontains]
        exact Part.mem_some _)
      exact ⟨hfree, fun hm => absurd (hzero hm) (Store.successor_ne_zero k)⟩
  | false =>
      obtain rfl : m = k := by
        have hstop : m ∈ s.search k := hk
        rw [search_of_free hcontains] at hstop
        exact Part.mem_some_iff.1 hstop
      exact ⟨hcontains, fun hm => hm⟩

/-- A name that is given away is new, and only the next search changes. -/
theorem Located.of_allocate (h : s.Located) (hallocate : s.allocate = .some (id, t)) :
    id ∉ s.ids ∧ ∃ n, t = { s with nextId := n } := by
  obtain ⟨hsearch, ht⟩ := allocate_eq_some hallocate
  have hfree := (of_mem_search hsearch).1
  exact ⟨mt h.contains_iff.2 (Bool.eq_false_iff.1 hfree), _, ht⟩

/-- A search ends as long as not all names are taken, wherever it begins. -/
theorem Located.exists_search (h : s.Located) (hroom : s.size + 1 < 2 ^ 32) (n : UInt32) :
    ∃ m, s.search n = .some m := by
  have hlength : s.ids.length = s.size := List.length_map _
  have hfree : ∃ i, (⟨Store.successor^[i] n⟩ : VariableId) ∉ s.ids := by
    -- the names from one on form a circle, which a search from zero enters with its second step
    by_cases hn : n = 0
    · obtain ⟨i, -, hi⟩ := Store.exists_free (Store.successor_ne_zero n) (hlength ▸ hroom)
      exact ⟨i + 1, hi⟩
    · obtain ⟨i, -, hi⟩ := Store.exists_free hn (hlength ▸ hroom)
      exact ⟨i, hi⟩
  obtain ⟨i, hi⟩ := hfree
  induction i generalizing n with
  | zero => exact ⟨n, search_of_free (Bool.eq_false_iff.2 (mt h.contains_iff.1 hi))⟩
  | succ i ih =>
      cases hcontains : s.contains ⟨n⟩ with
      | false => exact ⟨n, search_of_free hcontains⟩
      | true =>
          rw [search_of_taken hcontains]
          exact ih (Store.successor n) hi

/-! ## What every use relies on -/

/-- The index leads to the slots, and the table of constants to constants of the right value. -/
structure Sound (s : IndexedStore) : Prop where
  located : s.Located
  interned : ∀ key id, s.interned.lookup key = some id →
    ∃ value, value.internKey = key ∧ (⟨id, value, true⟩ : Slot) ∈ s.slots

namespace Sound

theorem new : IndexedStore.new.Sound where
  located := consistent_new.located
  interned := fun key id => (consistent_new.interned key id).1

theorem blank : IndexedStore.blank.Sound where
  located := .blank
  interned := by
    intro key id hlookup
    rw [IndexedStore.blank, AList.lookup_empty] at hlookup
    contradiction

/-- Other values under the same names. -/
theorem withSlots {store : Store} (h : s.Sound) (hids : store.ids = s.ids)
    (hadvances : s.toStore.Advances log store) : (s.withSlots store).Sound where
  located := h.located.of_ids hids
  interned := by
    intro key id hlookup
    obtain ⟨value, hkey, hslot⟩ := h.interned key id hlookup
    exact ⟨value, hkey, hadvances.mem_of_constant hslot rfl⟩

theorem push (h : s.Sound) (hid : slot.id ∉ s.ids) (n : UInt32) :
    ({ s.push slot with nextId := n } : IndexedStore).Sound where
  located := (h.located.push hid).of_ids rfl
  interned := by
    intro key id hlookup
    obtain ⟨value, hkey, hslot⟩ := h.interned key id hlookup
    exact ⟨value, hkey, List.mem_append_left _ hslot⟩

theorem push_constant (h : s.Sound) (hid : id ∉ s.ids) (n : UInt32) :
    ({ s.push ⟨id, value, true⟩ with
      nextId := n, interned := s.interned.insert value.internKey id } : IndexedStore).Sound where
  located := ⟨(h.located.push hid).ids, (h.located.push hid).index⟩
  interned := by
    intro key other hlookup
    by_cases hkey : key = value.internKey
    · subst hkey
      rw [AList.lookup_insert, Option.some.injEq] at hlookup
      subst hlookup
      exact ⟨value, rfl, List.mem_append_right _ (List.mem_singleton_self _)⟩
    · rw [AList.lookup_insert_ne hkey] at hlookup
      obtain ⟨held, hheld, hslot⟩ := h.interned key other hlookup
      exact ⟨held, hheld, List.mem_append_left _ hslot⟩

end Sound

/-! ## One use -/

/-- What has been done by a use that is answered. -/
structure Proceeds (s : IndexedStore) (use : StoreUse) (answer : Except StoreError StoreReply)
    (t : IndexedStore) : Prop where
  sound : t.Sound
  advances : s.toStore.Advances (use.writes s.toStore answer) t.toStore
  failed : ∀ e, answer = .error e → t = s

theorem Proceeds.of_ok {reply : StoreReply} (hsound : t.Sound)
    (hadvances : s.toStore.Advances (use.writes s.toStore (.ok reply)) t.toStore) :
    s.Proceeds use (.ok reply) t where
  sound := hsound
  advances := hadvances
  failed := fun _ h => absurd h (by simp)

namespace Sound

theorem proceeds_error (h : s.Sound) (use : StoreUse) (e : StoreError) :
    s.Proceeds use (.error e) s where
  sound := h
  advances := by
    have hwrites : use.writes s.toStore (.error e) = [] := by
      rw [StoreUse.writes] <;> nofun
    rw [hwrites]
    exact .of_slots rfl
  failed := fun _ _ => rfl

theorem proceeds_declare (h : s.Sound) (hdeclare : s.declare value = .some (id, t)) :
    s.Proceeds (.call (.declare value)) (.ok (.id id)) t := by
  rcases declare_cases hdeclare with ⟨hlookup, rfl⟩ | ⟨u, hallocate, rfl⟩
  · obtain ⟨held, hkey, hslot⟩ := h.interned _ _ hlookup
    rw [Value.internKey_injective hkey] at hslot
    have hget := Store.get_of_slot? (Store.slot?_of_mem h.located.ids hslot)
    exact .of_ok h (.of_get hget)
  · obtain ⟨hid, n, rfl⟩ := h.located.of_allocate hallocate
    have hpush : s.toStore.Advances _ (s.toStore.push ⟨id, value, true⟩) := .push hid
    exact .of_ok (h.push_constant hid n) (hpush.trans (.of_slots rfl))

theorem proceeds_declareMutable (h : s.Sound) (hdeclare : s.declareMutable value = .some (id, t)) :
    s.Proceeds (.call (.declareMutable value)) (.ok (.id id)) t := by
  obtain ⟨u, hallocate, rfl⟩ := declareMutable_eq_some hdeclare
  obtain ⟨hid, n, rfl⟩ := h.located.of_allocate hallocate
  have hpush : s.toStore.Advances _ (s.toStore.push ⟨id, value, false⟩) := .push hid
  exact .of_ok (h.push hid n) (hpush.trans (.of_slots rfl))

theorem proceeds_insert (h : s.Sound) (hinsert : s.insert id value = .ok t) :
    s.Proceeds (.call (.insert id value)) (.ok .done) t := by
  rw [IndexedStore.insert, Result.ite_error_eq_ok, Result.ok_eq_ok] at hinsert
  obtain ⟨hfree, rfl⟩ := hinsert
  have hid : id ∉ s.ids := mt h.located.contains_iff.2 hfree
  have hpush : s.toStore.Advances _ (s.toStore.push ⟨id, value, false⟩) := .push hid
  exact .of_ok (h.push hid _) (hpush.trans (.of_slots rfl))

theorem bindName (h : s.Sound) (name : String) (id : VariableId) : (s.bindName name id).Sound :=
  ⟨h.located.of_ids rfl, h.interned⟩

theorem proceeds_apply {effect : Effect} {outcome : Outcome} {store : Store} (h : s.Sound)
    (heffect : effect.apply s.toStore = .ok (outcome, store)) :
    s.Proceeds (.apply effect) (.ok (.outcome outcome)) (s.withSlots store) := by
  rcases Effect.apply_eq_ok heffect with
    ⟨request, -, rfl, rfl⟩ | ⟨target, value, changed, -, hoperand, rfl, hset⟩
  · exact .of_ok h (.of_slots rfl)
  · have hadvances := Store.Advances.of_set h.located.ids hset
    refine .of_ok (h.withSlots (Store.ids_of_set hset) hadvances) ?_
    rw [StoreUse.writes, hoperand]
    exact hadvances

/-- Whatever the use is. -/
theorem proceeds (h : s.Sound) (hstep : use.mutation.on s = .some (answer, t)) :
    s.Proceeds use answer t := by
  cases h.located.does hstep with
  | refused _ e => exact h.proceeds_error use e
  | declared hdeclare => exact h.proceeds_declare hdeclare
  | declaredMutable hdeclare => exact h.proceeds_declareMutable hdeclare
  | inserted hinsert => exact h.proceeds_insert hinsert
  | named name id => exact .of_ok (h.bindName name id) (.of_slots rfl)
  | written hset =>
      have hadvances := Store.Advances.of_set h.located.ids hset
      exact .of_ok (h.withSlots (Store.ids_of_set hset) hadvances) hadvances
  | applied heffect => exact h.proceeds_apply heffect
  | refreshed derived =>
      have hadvances := Store.advances_refreshed h.located.ids derived
      exact .of_ok (h.withSlots (Store.ids_refreshed derived _) hadvances) hadvances

/-! ## Answers -/

theorem exists_allocate (h : s.Sound) (hroom : s.size + 1 < 2 ^ 32) :
    ∃ done, Mutation.allocate.on s = .some done := by
  obtain ⟨n, hsearch⟩ := h.located.exists_search hroom s.nextId
  rw [Mutation.allocate, on_bind_of_ok on_get, on_bind_lift, hsearch, Part.bind_some]
  exact ⟨_, on_bind_of_ok (on_modify _)⟩

/-- A use is answered, if it needs no new name or not all names are taken. -/
theorem exists_answer (h : s.Sound) (use : StoreUse)
    (hroom : use.mayAllocate = true → s.size + 1 < 2 ^ 32) :
    ∃ done, use.mutation.on s = .some done := by
  cases use with
  | call c =>
      cases c with
      | declare value =>
          refine exists_on_bind ?_ fun id t => ⟨_, on_pure⟩
          rw [Mutation.declare, on_bind_of_ok on_get]
          cases s.interned.lookup value.internKey with
          | some id => exact ⟨_, on_pure⟩
          | none =>
              refine exists_on_bind (h.exists_allocate (hroom rfl)) fun id t => ?_
              rw [on_bind_of_ok (on_modify _)]
              exact ⟨_, on_bind_of_ok (on_modify _)⟩
      | declareMutable value =>
          refine exists_on_bind ?_ fun id t => ⟨_, on_pure⟩
          refine exists_on_bind (h.exists_allocate (hroom rfl)) fun id t => ?_
          exact ⟨_, on_bind_of_ok (on_modify _)⟩
      | insert id value =>
          exact exists_on_bind ⟨_, s.on_insert id value⟩ fun _ t => ⟨_, on_pure⟩
      | set id value =>
          exact exists_on_bind ⟨_, h.located.on_write id value⟩ fun _ t => ⟨_, on_pure⟩
      | bindName name id => exact ⟨_, on_bind_of_ok (on_modify _)⟩
  | apply effect =>
      exact exists_on_bind ⟨_, h.located.on_apply effect⟩ fun _ t => ⟨_, on_pure⟩
  | refresh derived => exact ⟨_, on_bind_of_ok (h.located.on_refresh derived)⟩

end Sound

/-! ## Writes -/

/-- Nothing differs but the slot of one variable, if any. -/
structure Spares (s : IndexedStore) (target? : Option VariableId) (t : IndexedStore) : Prop where
  rest : { t with slots := s.slots } = s
  size : t.size = s.size
  slots : ∀ (i : Nat) (slot : Slot), s.slots[i]? = some slot → target? ≠ some slot.id →
    t.slots[i]? = some slot

namespace Spares

theorem refl (s : IndexedStore) : s.Spares none s := ⟨rfl, rfl, fun _ _ hslot _ => hslot⟩

theorem of_set {changed : Bool} {store : Store}
    (hset : s.toStore.set id value = .ok (changed, store)) :
    s.Spares (some id) (s.withSlots store) := by
  obtain ⟨held, -, -, -, rfl⟩ := Store.set_eq_ok.1 hset
  refine ⟨rfl, List.length_map _, fun i slot hslot hother => ?_⟩
  have hne : slot.id ≠ id := fun hid => hother (congrArg some hid.symm)
  show (s.slots.map _)[i]? = _
  rw [List.getElem?_map, hslot, Option.map_some, if_neg hne]

end Spares

/-- A write that succeeds leaves all but its target. -/
theorem Located.spares {reply : StoreReply} (h : s.Located) (hwrite : use.isWrite = true)
    (hstep : use.mutation.on s = .some (.ok reply, t)) : s.Spares use.target? t := by
  cases h.does hstep with
  | written hset => exact .of_set hset
  | applied heffect =>
      rw [StoreUse.target?]
      rcases Effect.apply_eq_ok heffect with
        ⟨request, htarget, -, rfl⟩ | ⟨target, value, changed, htarget, -, -, hset⟩
      · rw [htarget]
        exact .refl s
      · rw [htarget]
        exact .of_set hset
  | _ => contradiction

/-! ## Any uses -/

/-- Uses of a store with the answers to them, what they have declared and written, and the store
that they lead to. -/
inductive Uses (s : IndexedStore) : List (StoreUse × Except StoreError StoreReply) →
    List (VariableId × Value) → IndexedStore → Prop
  | none : Uses s [] [] s
  | step {events log t use answer u} (before : Uses s events log t)
      (step : use.mutation.on t = .some (answer, u)) :
      Uses s (events ++ [(use, answer)]) (log ++ use.writes t.toStore answer) u

variable {events : List (StoreUse × Except StoreError StoreReply)}

theorem Uses.advances (h : Uses s events log t) (hs : s.Sound) :
    t.Sound ∧ s.toStore.Advances log t.toStore := by
  induction h with
  | none => exact ⟨hs, .of_slots rfl⟩
  | step before step ih =>
      obtain ⟨hsound, hadvances⟩ := ih
      have hproceeds := hsound.proceeds step
      exact ⟨hproceeds.sound, hadvances.trans hproceeds.advances⟩

/-- A store that uses of an empty one have led to. -/
def Arises (s : IndexedStore) : Prop :=
  ∃ start events log, (start = new ∨ start = blank) ∧ Uses start events log s

theorem Arises.sound (h : s.Arises) : s.Sound := by
  obtain ⟨start, events, log, rfl | rfl, huses⟩ := h
  · exact (huses.advances .new).1
  · exact (huses.advances .blank).1

/-- Whatever uses are made of a store, its names stay the first ones in their order, and its slots
where they are, each with its kind, and a constant with its value.  What is then read of a variable
is what was last declared or written, or what was there before.  Every use is answered, if it needs
no new name or not all names are taken; one that fails changes nothing, and a write that succeeds
changes nothing but its target. -/
theorem uses_keep (hs : s.Arises) (h : Uses s events log t) :
    s.ids <+: t.ids ∧
      (∀ (i : Nat) (old : Slot), s.slots[i]? = some old →
        ∃ new, t.slots[i]? = some new ∧ old.Keeps new) ∧
      (∀ id, (t.read? id).run = match log.reverse.lookup id with
        | some value => some (.ok value)
        | none => (s.read? id).run) ∧
      (∀ use : StoreUse, (use.mayAllocate = true → t.size + 1 < 2 ^ 32) →
        ∃ done, use.mutation.on t = .some done) ∧
      (∀ (use : StoreUse) e u, use.mutation.on t = .some (.error e, u) → u = t) ∧
      ∀ (use : StoreUse) reply u, use.isWrite = true → use.mutation.on t = .some (.ok reply, u) →
        t.Spares use.target? u := by
  obtain ⟨hsound, hadvances⟩ := h.advances hs.sound
  refine ⟨hadvances.ids_prefix, hadvances.slots, fun id => ?_, hsound.exists_answer,
    fun use e u hstep => (hsound.proceeds hstep).failed e rfl,
    fun use reply u => hsound.located.spares⟩
  rw [hsound.located.run_read?, hs.sound.located.run_read?, hadvances.get]
  cases log.reverse.lookup id <;> rfl

/-- A constant that is written, taken for a source and for a derived variable stays as it is; the
variable beside it has what was written last. -/
theorem uses_keep_constant :
    ∃ s t events, s.Arises ∧
      Uses s events [(⟨5⟩, .int 7), (⟨5⟩, .int 8)] t ∧
      events.map (·.2) = [.error (.readOnly ⟨6⟩), .error (.kindMismatch ⟨5⟩ (.kind .int) .text),
        .ok (.outcome (.written ⟨5⟩ true)), .ok (.changed [⟨5⟩])] ∧
      (t.read? ⟨5⟩).run = some (.ok (.int 8)) ∧
      (t.read? ⟨6⟩).run = some (.ok (.text "a")) ∧
      ∃ new, t.slots[1]? = some new ∧ Slot.Keeps ⟨⟨6⟩, .text "a", true⟩ new := by
  let first : IndexedStore := { blank.push ⟨⟨5⟩, .int 1, false⟩ with nextId := 6 }
  let s : IndexedStore :=
    { first.push ⟨⟨6⟩, .text "a", true⟩ with
      nextId := 7, interned := first.interned.insert (.text "a") ⟨6⟩ }
  have hfirst : (StoreUse.call (.insert ⟨5⟩ (.int 1))).mutation.on blank =
      .some (.ok .done, first) :=
    on_bind_of_ok (blank.on_insert ⟨5⟩ (.int 1))
  have hsecond : (StoreUse.call (.declare (.text "a"))).mutation.on first =
      .some (.ok (.id ⟨6⟩), s) := by
    have hfree : first.contains ⟨6⟩ = false := by decide
    have hallocate : first.allocate = .some (⟨6⟩, { first with nextId := 7 }) := by
      rw [allocate]
      show (first.search 6).bind _ = _
      rw [search_of_free hfree]
      exact Part.bind_some _ _
    have hdeclare : first.declare (.text "a") = .some (⟨6⟩, s) := by
      have hnew : first.interned.lookup (Value.text "a").internKey = none := rfl
      rw [declare, hnew, hallocate]
      exact Part.bind_some _ _
    rw [StoreUse.mutation, on_bind_of_settles (first.settles_declare (.text "a")), hdeclare]
    exact Part.bind_some _ _
  have harises : s.Arises := ⟨blank, _, _, .inr rfl, .step (.step .none hfirst) hsecond⟩
  let u := s.withSlots (s.toStore.write ⟨5⟩ (.int 7))
  let t := u.withSlots (u.toStore.write ⟨5⟩ (.int 8))
  let derived : List DerivedVariable := [⟨⟨6⟩, .integer (.constant (.int 3))⟩,
    ⟨⟨5⟩, .integer (.binary .add (.reference ⟨5⟩) (.constant (.int 1)))⟩]
  have hset : (StoreUse.call (.set ⟨6⟩ (.text "b"))).mutation.on s =
      .some (.error (.readOnly ⟨6⟩), s) :=
    on_bind_of_error (harises.sound.located.on_write ⟨6⟩ (.text "b"))
  have hcopy : (StoreUse.apply (.copyText ⟨5⟩ ⟨6⟩)).mutation.on s =
      .some (.error (.kindMismatch ⟨5⟩ (.kind .int) .text), s) :=
    on_bind_of_error (harises.sound.located.on_apply (.copyText ⟨5⟩ ⟨6⟩))
  have hinteger : (StoreUse.apply (.setInteger ⟨5⟩ 7)).mutation.on s =
      .some (.ok (.outcome (.written ⟨5⟩ true)), u) :=
    on_bind_of_ok (harises.sound.located.on_apply (.setInteger ⟨5⟩ 7))
  have hu : u.Sound := (harises.sound.proceeds hinteger).sound
  have hrefresh : (StoreUse.refresh derived).mutation.on u = .some (.ok (.changed [⟨5⟩]), t) :=
    on_bind_of_ok (hu.located.on_refresh derived)
  have huses : Uses s _ [(⟨5⟩, .int 7), (⟨5⟩, .int 8)] t :=
    .step (.step (.step (.step .none hset) hcopy) hinteger) hrefresh
  obtain ⟨-, hslots, hread, -, -, -⟩ := uses_keep harises huses
  have hsource : (s.read? ⟨6⟩).run = some (.ok (.text "a")) := harises.sound.located.run_read? ⟨6⟩
  exact ⟨s, t, _, harises, huses, rfl, hread ⟨5⟩, (hread ⟨6⟩).trans hsource, hslots 1 _ rfl⟩

end IndexedStore

end Panel
