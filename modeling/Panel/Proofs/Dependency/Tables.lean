import Panel.Dependency.Tables
import Panel.Proofs.Dependency.Reach

/-!
# What the tables of dependencies answer

The tables hold exactly the components that mention a variable and the derived variables that are
computed from it.  A search through tables of any content ends, since every derived variable joins
the queue at most once, and finds what mentions a variable that can be reached.
-/

namespace Panel

/-- What every step of a fold may bring about holds after the fold if it held before or some step
brought it about. -/
theorem foldl_iff_or_exists {α β : Type} {P : α → Prop} {Q : β → Prop} {f : α → β → α}
    (hstep : ∀ a b, P (f a b) ↔ P a ∨ Q b) (a : α) (bs : List β) :
    P (bs.foldl f a) ↔ P a ∨ ∃ b ∈ bs, Q b := by
  induction bs generalizing a with
  | nil => simp
  | cons b bs ih => rw [List.foldl_cons, ih, hstep, List.exists_mem_cons_iff, or_assoc]

namespace DependencyTables

variable {t : DependencyTables} {start id other reader : VariableId} {i j : Nat}
  {queue : List VariableId} {s : Search} {nodes : List Node} {derived : List DerivedVariable}
  {store : Store}

/-! ## Filling the tables -/

theorem mem_readersOf_addReader :
    j ∈ (t.addReader i id).readersOf other ↔ j ∈ t.readersOf other ∨ other = id ∧ j = i := by
  by_cases hid : other = id
  · subst hid
    rw [addReader, readersOf, AList.lookup_insert, Option.getD_some]
    split
    · next hmem =>
        constructor
        · exact .inl
        · rintro (hj | ⟨-, rfl⟩) <;> assumption
    · simp
  · rw [addReader, readersOf, AList.lookup_insert_ne hid]
    simp [readersOf, hid]

theorem mem_dependentsOf_addDependent :
    other ∈ (t.addDependent reader id).dependentsOf start ↔
      other ∈ t.dependentsOf start ∨ start = id ∧ other = reader := by
  by_cases hid : start = id
  · subst hid
    rw [addDependent, dependentsOf, AList.lookup_insert, Option.getD_some]
    simp
  · rw [addDependent, dependentsOf, AList.lookup_insert_ne hid]
    simp [dependentsOf, hid]

theorem mem_readersOf_addNode (pair : Node × Nat) :
    j ∈ (t.addNode pair).readersOf other ↔
      j ∈ t.readersOf other ∨ other ∈ pair.1.reads ∧ j = pair.2 := by
  rw [addNode, foldl_iff_or_exists (P := fun t => j ∈ readersOf t other)
    (Q := fun id => other = id ∧ j = pair.2) fun t id => mem_readersOf_addReader]
  simp

theorem mem_dependentsOf_addDerived (d : DerivedVariable) :
    other ∈ (t.addDerived store d).dependentsOf id ↔
      other ∈ t.dependentsOf id ∨ id ∈ d.recipe.dependencies store ∧ other = d.id := by
  rw [addDerived, foldl_iff_or_exists (P := fun t => other ∈ dependentsOf t id)
    (Q := fun read => id = read ∧ other = d.id) fun t read => mem_dependentsOf_addDependent]
  simp

theorem mem_readersOf_addDerived (d : DerivedVariable) :
    j ∈ (t.addDerived store d).readersOf other ↔ j ∈ t.readersOf other ∨ False := by
  rw [addDerived, foldl_iff_or_exists (P := fun t => j ∈ readersOf t other)
    (Q := fun _ => False) (f := addDependent d.id) fun t read => iff_of_eq (or_false _).symm]
  simp

theorem mem_dependentsOf_addNode (pair : Node × Nat) :
    other ∈ (t.addNode pair).dependentsOf id ↔ other ∈ t.dependentsOf id ∨ False := by
  rw [addNode, foldl_iff_or_exists (P := fun t => other ∈ dependentsOf t id)
    (Q := fun _ => False) (f := addReader pair.2) fun t read => iff_of_eq (or_false _).symm]
  simp

/-- The first table holds the components that mention a variable. -/
theorem mem_readersOf_of : i ∈ (of nodes derived store).readersOf id ↔
    ∃ n, nodes[i]? = some n ∧ id ∈ n.reads := by
  rw [of, foldl_iff_or_exists (P := fun t => i ∈ readersOf t id)
      (Q := fun _ => False) fun t d => mem_readersOf_addDerived d,
    foldl_iff_or_exists (P := fun t => i ∈ readersOf t id)
      (Q := fun pair => id ∈ pair.1.reads ∧ i = pair.2) fun t pair => mem_readersOf_addNode pair]
  simp [empty, readersOf, List.mem_zipIdx_iff_getElem?, and_comm]

/-- The second table holds the derived variables that are computed from a variable. -/
theorem mem_dependentsOf_of : other ∈ (of nodes derived store).dependentsOf id ↔
    ∃ d ∈ derived, d.id = other ∧ id ∈ d.recipe.dependencies store := by
  rw [of, foldl_iff_or_exists (P := fun t => other ∈ dependentsOf t id)
      (Q := fun d => id ∈ d.recipe.dependencies store ∧ other = d.id)
      fun t d => mem_dependentsOf_addDerived d,
    foldl_iff_or_exists (P := fun t => other ∈ dependentsOf t id)
      (Q := fun _ => False) fun t pair => mem_dependentsOf_addNode pair]
  simp [empty, dependentsOf, and_comm, eq_comm]

/-! ## One step of a search -/

/-- A variable and one that is computed from it, directly or not. -/
def Reaches (t : DependencyTables) : VariableId → VariableId → Prop :=
  Relation.ReflTransGen fun id reader => reader ∈ t.dependentsOf id

/-- All derived variables that are entered. -/
def names (t : DependencyTables) : Finset VariableId :=
  (t.dependents.entries.flatMap (·.2)).toFinset

theorem dependentsOf_subset_names (hother : other ∈ t.dependentsOf id) : other ∈ t.names := by
  cases hfound : t.dependents.lookup id with
  | none => simp [dependentsOf, hfound] at hother
  | some others =>
      rw [dependentsOf, hfound, Option.getD_some] at hother
      rw [names, List.mem_toFinset, List.mem_flatMap]
      exact ⟨⟨id, others⟩, AList.mem_lookup_iff.1 hfound, hother⟩

theorem foldl_join (ids : List VariableId) (s : Search) :
    ∃ fresh : List VariableId, fresh.Nodup ∧ (∀ id, id ∈ fresh ↔ id ∈ ids ∧ id ∉ s.seen) ∧
      ids.foldl Search.join s =
        { s with queue := s.queue ++ fresh, seen := s.seen ∪ fresh.toFinset } := by
  induction ids generalizing s with
  | nil => exact ⟨[], List.nodup_nil, by simp, by simp⟩
  | cons first ids ih =>
      obtain ⟨fresh, hnodup, hfresh, hfold⟩ := ih (s.join first)
      by_cases hseen : first ∈ s.seen
      · have hjoin : s.join first = s := if_pos hseen
        rw [hjoin] at hfresh hfold
        refine ⟨fresh, hnodup, fun id => ?_, by rw [List.foldl_cons, hjoin, hfold]⟩
        rw [hfresh, List.mem_cons]
        constructor
        · exact fun h => ⟨.inr h.1, h.2⟩
        · rintro ⟨rfl | hid, hunseen⟩
          · exact absurd hseen hunseen
          · exact ⟨hid, hunseen⟩
      · have hjoin : s.join first =
            { s with queue := s.queue ++ [first], seen := insert first s.seen } := if_neg hseen
        simp only [hjoin, Finset.mem_insert, not_or] at hfresh hfold
        refine ⟨first :: fresh, hnodup.cons fun hmem => ((hfresh first).1 hmem).2.1 rfl,
          fun id => ?_, ?_⟩
        · rw [List.mem_cons, hfresh, List.mem_cons]
          by_cases hid : id = first
          · simp [hid, hseen]
          · simp [hid]
        · rw [List.foldl_cons, hjoin, hfold]
          simp [Finset.insert_union]

/-- What holds of a search all along: nothing but what can be reached is seen, and whatever was seen
is waiting or has had its turn. -/
structure Search.Sound (t : DependencyTables) (start : VariableId) (s : Search) : Prop where
  first : start ∈ s.seen
  seen : ∀ id ∈ s.seen, t.Reaches start id
  queue : ∀ id ∈ s.queue, id ∈ s.seen
  done : ∀ id ∈ s.seen, id ∈ s.queue ∨ (∀ other ∈ t.dependentsOf id, other ∈ s.seen) ∧
    ∀ i ∈ t.readersOf id, i ∈ s.components
  components : ∀ i ∈ s.components, ∃ id, t.Reaches start id ∧ i ∈ t.readersOf id

theorem Search.sound_start (t : DependencyTables) (start : VariableId) :
    Search.Sound t start ⟨[start], {start}, ∅⟩ where
  first := Finset.mem_singleton_self start
  seen := by
    intro id hid
    rw [Finset.mem_singleton.1 hid]
    exact .refl
  queue := by simp
  done := by simp
  components := by simp

/-- The variables that may still join the queue, and those that wait in it. -/
def Search.pending (t : DependencyTables) (s : Search) : Nat :=
  s.queue.length + (t.names \ s.seen).card

section

variable {seen : Finset VariableId} {components : Finset Nat} {fresh : List VariableId}
  (hfresh : ∀ other, other ∈ fresh ↔ other ∈ t.dependentsOf id ∧ other ∉ seen)

include hfresh

/-- One turn keeps what holds all along. -/
theorem Search.Sound.turn (h : Search.Sound t start ⟨id :: queue, seen, components⟩) :
    Search.Sound t start ⟨queue ++ fresh, seen ∪ fresh.toFinset,
      components ∪ (t.readersOf id).toFinset⟩ := by
  have hid : t.Reaches start id := h.seen id (h.queue id List.mem_cons_self)
  constructor
  case first => exact Finset.mem_union_left _ h.first
  case seen =>
    intro other hother
    rcases Finset.mem_union.1 hother with hother | hother
    · exact h.seen other hother
    · exact hid.tail ((hfresh other).1 (List.mem_toFinset.1 hother)).1
  case queue =>
    intro other hother
    rcases List.mem_append.1 hother with hother | hother
    · exact Finset.mem_union_left _ (h.queue other (.tail id hother))
    · exact Finset.mem_union_right _ (List.mem_toFinset.2 hother)
  case done =>
    intro other hother
    rcases Finset.mem_union.1 hother with hother | hother
    · rcases h.done other hother with hqueue | ⟨hdependents, hreaders⟩
      · rcases List.mem_cons.1 hqueue with rfl | hqueue
        -- the variable that has just had its turn
        · refine .inr ⟨fun reader hreader => ?_, fun i hi => ?_⟩
          · by_cases hseen : reader ∈ seen
            · exact Finset.mem_union_left _ hseen
            · have hmem := (hfresh reader).2 ⟨hreader, hseen⟩
              exact Finset.mem_union_right _ (List.mem_toFinset.2 hmem)
          · exact Finset.mem_union_right _ (List.mem_toFinset.2 hi)
        · exact .inl (List.mem_append_left _ hqueue)
      · refine .inr ⟨fun reader hreader => ?_, fun i hi => ?_⟩
        · exact Finset.mem_union_left _ (hdependents reader hreader)
        · exact Finset.mem_union_left _ (hreaders i hi)
    · exact .inl (List.mem_append_right _ (List.mem_toFinset.1 hother))
  case components =>
    intro i hi
    rcases Finset.mem_union.1 hi with hi | hi
    · exact h.components i hi
    · exact ⟨id, hid, List.mem_toFinset.1 hi⟩

/-- One turn takes one variable off, and whatever joins comes from those that had not joined. -/
theorem Search.pending_turn (hnodup : fresh.Nodup) (found : Finset Nat) :
    Search.pending t ⟨queue ++ fresh, seen ∪ fresh.toFinset, found⟩ <
      Search.pending t ⟨id :: queue, seen, components⟩ := by
  have hsub : fresh.toFinset ⊆ t.names \ seen := by
    intro other hother
    obtain ⟨hdependent, hunseen⟩ := (hfresh other).1 (List.mem_toFinset.1 hother)
    exact Finset.mem_sdiff.2 ⟨dependentsOf_subset_names hdependent, hunseen⟩
  have hsplit : t.names \ (seen ∪ fresh.toFinset) = (t.names \ seen) \ fresh.toFinset :=
    sdiff_sdiff_left.symm
  have hcard := Finset.card_sdiff_add_card_eq_card hsub
  rw [List.toFinset_card_of_nodup hnodup] at hcard
  simp only [Search.pending, hsplit, List.length_append, List.length_cons]
  omega

end

/-- A step ends the search or comes closer to its end. -/
theorem step_cases (h : Search.Sound t start s) :
    (s.queue = [] ∧ t.step s = .inl s.components) ∨
      ∃ next, t.step s = .inr next ∧ Search.Sound t start next ∧
        next.pending t < s.pending t := by
  obtain ⟨queue, seen, components⟩ := s
  cases queue with
  | nil => exact .inl ⟨rfl, rfl⟩
  | cons id queue =>
      obtain ⟨fresh, hnodup, hfresh, hfold⟩ := foldl_join (t.dependentsOf id)
        ⟨queue, seen, components ∪ (t.readersOf id).toFinset⟩
      exact .inr ⟨_, congrArg Sum.inr hfold, h.turn hfresh, Search.pending_turn hfresh hnodup _⟩

/-! ## The whole search -/

/-- A search ends, and has then found what reads a variable that can be reached. -/
theorem search_eq_some (h : Search.Sound t start s) :
    ∃ components, t.search s = .some components ∧
      ∀ i, i ∈ components ↔ ∃ id, t.Reaches start id ∧ i ∈ t.readersOf id := by
  induction hpending : s.pending t using Nat.strong_induction_on generalizing s with
  | _ bound ih =>
      rcases step_cases h with ⟨hqueue, hstep⟩ | ⟨next, hstep, hnext, hlt⟩
      · refine ⟨s.components, Part.eq_some_iff.2 (PFun.fix_stop (by simp [hstep])), fun i => ?_⟩
        have hclosed : ∀ id, t.Reaches start id → id ∈ s.seen ∧
            ∀ i ∈ t.readersOf id, i ∈ s.components := by
          have hdone (id : VariableId) (hid : id ∈ s.seen) := (h.done id hid).resolve_left
            (by rw [hqueue]; exact List.not_mem_nil)
          intro id hreaches
          induction hreaches with
          | refl => exact ⟨h.first, (hdone start h.first).2⟩
          | tail _ hreader ih =>
              have hseen := (hdone _ ih.1).1 _ hreader
              exact ⟨hseen, (hdone _ hseen).2⟩
        constructor
        · exact h.components i
        · rintro ⟨id, hreaches, hi⟩
          exact (hclosed id hreaches).2 i hi
      · have hsame : t.search s = t.search next := PFun.fix_fwd_eq (by simp [hstep])
        rw [hsame]
        exact ih (next.pending t) (hpending ▸ hlt) hnext rfl

theorem affected_eq_some (t : DependencyTables) (id : VariableId) :
    ∃ components, t.affected id = .some components ∧ components.SortedLT ∧
      ∀ i, i ∈ components ↔ ∃ other, t.Reaches id other ∧ i ∈ t.readersOf other := by
  obtain ⟨components, hsearch, hmem⟩ := search_eq_some (Search.sound_start t id)
  refine ⟨components.sort, ?_, components.sortedLT_sort, fun i => ?_⟩
  · rw [affected, hsearch]
    exact Part.bind_some _ _
  · rw [Finset.mem_sort, hmem]

/-- **Transitive readers are found exactly.**  For any components, derived variables and store, the
search through the tables filled from them ends.  Its answer is what the plain index answers; it is
strictly ascending, and lists the components that mention a variable to which some number of steps
leads, each of them from a variable to a derived variable that depends on it. -/
theorem affected_exact (nodes : List Node) (derived : List DerivedVariable) (store : Store)
    (id : VariableId) :
    ∃ components, (of nodes derived store).affected id = .some components ∧
      components = DependencyIndex.affected
        ⟨nodes.map Node.reads, derived.map fun d => (d.id, d.recipe.dependencies store)⟩ id ∧
      components.SortedLT ∧
      ∀ i, i ∈ components ↔ ∃ n, nodes[i]? = some n ∧ ∃ other ∈ n.reads,
        Relation.ReflTransGen
          (fun read reader => ∃ d ∈ derived, d.id = reader ∧ read ∈ d.recipe.dependencies store)
          id other := by
  obtain ⟨components, haffected, hsorted, hmem⟩ := affected_eq_some (of nodes derived store) id
  have hexact : ∀ i, i ∈ components ↔ ∃ n, nodes[i]? = some n ∧ ∃ other ∈ n.reads,
      Relation.ReflTransGen
        (fun read reader => ∃ d ∈ derived, d.id = reader ∧ read ∈ d.recipe.dependencies store)
        id other := by
    intro i
    rw [hmem]
    simp only [Reaches, mem_dependentsOf_of, mem_readersOf_of]
    constructor
    · rintro ⟨other, hreaches, n, hn, hread⟩
      exact ⟨n, hn, other, hread, hreaches⟩
    · rintro ⟨n, hn, other, hread, hreaches⟩
      exact ⟨other, hreaches, n, hn, hread⟩
  refine ⟨components, haffected, ?_, hsorted, hexact⟩
  apply hsorted.eq_of_mem_iff (DependencyIndex.sortedLT_affected _ id)
  intro i
  rw [hexact, DependencyIndex.mem_affected_iff]
  have hsteps : (fun read reader => ∃ d ∈ derived, d.id = reader ∧
      read ∈ d.recipe.dependencies store) =
      fun read reader : VariableId => ∃ reads,
        (reader, reads) ∈ derived.map (fun d => (d.id, d.recipe.dependencies store)) ∧
          read ∈ reads := by
    funext read reader
    simp [and_assoc]
  simp only [DependencyIndex.Reaches, DependencyIndex.mem_readersOf, hsteps, List.getElem?_map,
    Option.map_eq_some_iff, exists_exists_and_eq_and]

end DependencyTables

end Panel
