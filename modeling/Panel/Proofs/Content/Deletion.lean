import Mathlib.Data.List.Basic
import Panel.Proofs.Component.Pruned
import Panel.Proofs.Content.Tree

/-!
# Deleting a component from a document

To delete a component from a list of operations is to take out the operations that its tree stands
for: its modifiers, the component itself with everything in its scope, and the end of the scope.
What else is declared between them stays.  The remaining list builds the pruned tree, and with it
the variables and actions of the whole list.
-/

namespace Panel

/-- The operations that say nothing about the tree. -/
def declarations (operations : List Operation) : List Operation :=
  operations.filter fun op => !op.isStructural

/-- The list `remaining` is `operations` without the structural operations `deleted`, which follow
each other but for declarations between them. -/
def Deletes (deleted operations remaining : List Operation) : Prop :=
  ∃ before inside after, operations = before ++ inside ++ after ∧
    inside.filter Operation.isStructural = deleted ∧
    remaining = before ++ declarations inside ++ after

/-! ## Waiting modifiers -/

section Waiting

variable {before after : List Operation}

theorem waiting_concat (op : Operation) : waiting (before ++ [op]) =
    match op with
    | .modifier m => waiting before ++ [m]
    | .component .. => []
    | .containerEnd => []
    | _ => waiting before := by
  cases op with
  | modifier m => exact waiting_concat_modifier
  | component id kind => exact waiting_concat_layout rfl
  | containerEnd => exact waiting_concat_layout rfl
  | _ => exact waiting_concat_other rfl

/-- Where nothing waits, what comes to wait depends on nothing before. -/
theorem waiting_append (h : waiting before = []) :
    waiting (before ++ after) = waiting after := by
  induction after using List.reverseRecOn with
  | nil => rw [List.append_nil, h]; rfl
  | append_singleton after op ih =>
      rw [← List.append_assoc, waiting_concat, waiting_concat, ih]

theorem waiting_filter_isStructural (operations : List Operation) :
    waiting (operations.filter Operation.isStructural) = waiting operations := by
  induction operations using List.reverseRecOn with
  | nil => rfl
  | append_singleton operations op ih =>
      rw [List.filter_append]
      cases hop : op.isStructural with
      | true => rw [List.filter_cons_of_pos hop, List.filter_nil, waiting_concat, waiting_concat, ih]
      | false =>
          rw [List.filter_cons_of_neg (by simp [hop]), List.filter_nil, List.append_nil,
            ih, waiting_concat_other hop]

end Waiting

namespace Component

theorem Proper.waiting_append_operations {c : Component} (h : c.Proper) (front : List Operation) :
    waiting (front ++ c.operations) = [] := by
  cases h with
  | @container id kind modifiers children hkind _ =>
      rw [operations, if_pos hkind, ← List.cons_append, ← List.append_assoc, ← List.append_assoc]
      exact waiting_concat_layout rfl
  | @leaf id kind modifiers hkind =>
      rw [operations, operationsAll, hkind, ← List.append_assoc]
      exact waiting_concat_layout rfl

theorem waiting_append_operationsAll {cs : List Component} (h : ∀ c ∈ cs, c.Proper)
    {front : List Operation} (hfront : waiting front = []) :
    waiting (front ++ operationsAll cs) = [] := by
  induction cs generalizing front with
  | nil => rwa [operationsAll, List.append_nil]
  | cons c cs ih =>
      rw [List.forall_mem_cons] at h
      rw [operationsAll, ← List.append_assoc]
      exact ih h.2 (h.1.waiting_append_operations front)

/-! ## The operations of a pruned tree -/

namespace Pruned

variable {c d e : Component} {i : Nat}

/-- The operations of the component stand together, and no modifier waits before them. -/
theorem exists_operations (h : Pruned c i d e) (hd : d.Proper) :
    ∃ before after, d.operations = before ++ c.operations ++ after ∧
      e.operations = before ++ after ∧ ∀ front, waiting (front ++ before) = [] := by
  induction h with
  | @child id kind modifiers front back =>
      obtain ⟨-, -, hfront, -⟩ := hd.parts
      refine ⟨modifiers.map .modifier ++ [.component id kind] ++ operationsAll front,
        operationsAll back ++ if kind.isContainer then [.containerEnd] else [], ?_, ?_, ?_⟩
      · simp [operations, operationsAll_append, operationsAll]
      · simp [operations, operationsAll_append]
      · intro outer
        rw [← List.append_assoc, ← List.append_assoc]
        exact waiting_append_operationsAll hfront (waiting_concat_layout rfl)
  | @deeper i d e id kind modifiers front back _ ih =>
      obtain ⟨-, hchild, -, -⟩ := hd.parts
      obtain ⟨before, after, hoperations, hremaining, hwaiting⟩ := ih hchild
      refine ⟨modifiers.map .modifier ++ .component id kind :: operationsAll front ++ before,
        after ++ operationsAll back ++ if kind.isContainer then [.containerEnd] else [], ?_, ?_, ?_⟩
      · simp [operations, operationsAll_append, operationsAll, hoperations]
      · simp [operations, operationsAll_append, operationsAll, hremaining]
      · intro outer
        rw [← List.append_assoc]
        exact hwaiting _

end Pruned

theorem operations_place_unique {c : Component} {front front' back back' : List Operation}
    (hnodup : ((front ++ c.operations ++ back).filterMap Operation.declaredComponent?).Nodup)
    (h : front ++ c.operations ++ back = front' ++ c.operations ++ back') :
    front = front' ∧ back = back' := by
  obtain ⟨id, kind, modifiers, children⟩ := c
  simp only [operations, List.append_assoc, List.cons_append] at h hnodup
  rw [← List.append_assoc, ← List.append_assoc front'] at h
  -- the name of the component is declared once, which fixes the place
  rw [← List.append_assoc, List.filterMap_append, List.filterMap_cons_some (by rfl),
    List.nodup_middle, List.nodup_cons, List.mem_append] at hnodup
  obtain ⟨hfront, -, hback⟩ := (List.append_cons_inj_of_notMem
    (fun hmem => hnodup.1 (.inl (List.mem_filterMap.2 ⟨_, hmem, rfl⟩)))
    (fun hmem => hnodup.1 (.inr (List.mem_filterMap.2 ⟨_, hmem, rfl⟩)))).1 h
  exact ⟨List.append_cancel_right hfront, by simpa using hback⟩

end Component

/-! ## The remaining operations -/

section Remaining

variable {operations before inside after : List Operation} {op : Operation}

theorem filter_isStructural_declarations (operations : List Operation) :
    (declarations operations).filter Operation.isStructural = [] := by
  simp [declarations, List.filter_filter]

theorem declarations_append (front back : List Operation) :
    declarations (front ++ back) = declarations front ++ declarations back :=
  List.filter_append _ _

theorem declarations_declarations (operations : List Operation) :
    declarations (declarations operations) = declarations operations := by
  simp [declarations, List.filter_filter]

theorem exists_split_of_remaining {front back : List Operation} (hop : op.isStructural = true)
    (h : before ++ declarations inside ++ after = front ++ op :: back) :
    (∃ between, before = front ++ op :: between) ∨
      ∃ between, after = between ++ op :: back ∧
        front = before ++ declarations inside ++ between := by
  have hnot : op ∉ declarations inside := by simp [declarations, hop]
  -- the operation stands after the declarations that stayed, among them, or before them
  rcases List.append_eq_append_iff.1 h with ⟨between, hfront, hafter⟩ | ⟨between, hbefore, hback⟩
  · exact .inr ⟨between, hafter, hfront⟩
  · rcases List.cons_eq_append_iff.1 hback with ⟨rfl, hafter⟩ | ⟨between, rfl, -⟩
    · exact .inr ⟨[], hafter, by rw [List.append_nil, hbefore, List.append_nil]⟩
    · rcases List.append_eq_append_iff.1 hbefore with ⟨rest, -, hrest⟩ | ⟨rest, hsplit, hrest⟩
      · exact absurd (hrest ▸ List.mem_append_right rest List.mem_cons_self) hnot
      · rcases List.cons_eq_append_iff.1 hrest with ⟨-, hinside⟩ | ⟨rest, rfl, -⟩
        · exact absurd (hinside ▸ List.mem_cons_self) hnot
        · exact .inl ⟨rest, hsplit⟩

/-- What remains stands in as many containers as before, behind the same waiting modifiers. -/
theorem exists_place_of_remaining {c : Component} {front back : List Operation} (hc : c.Proper)
    (hinside : inside.filter Operation.isStructural = c.operations)
    (hwaiting : waiting before = []) (hop : op.isStructural = true)
    (h : before ++ declarations inside ++ after = front ++ op :: back) :
    ∃ front' back', before ++ inside ++ after = front' ++ op :: back' ∧
      enclosing front = enclosing front' ∧ waiting front = waiting front' := by
  rcases exists_split_of_remaining hop h with ⟨between, rfl⟩ | ⟨between, rfl, rfl⟩
  · exact ⟨front, between ++ inside ++ after, by simp, rfl, rfl⟩
  · refine ⟨before ++ inside ++ between, back, by simp, ?_, ?_⟩
    · have hbalanced := Component.countP_opens_operationsAll (List.forall_mem_singleton.2 hc)
      rw [Component.operationsAll_singleton] at hbalanced
      rw [← Component.enclosing_filter_isStructural,
        ← Component.enclosing_filter_isStructural (before ++ inside ++ between)]
      simp only [List.filter_append, filter_isStructural_declarations, hinside, enclosing,
        List.countP_append, List.countP_nil, hbalanced]
      omega
    · have hremaining : waiting (before ++ declarations inside) = [] := by
        rw [← waiting_filter_isStructural, List.filter_append, filter_isStructural_declarations,
          List.append_nil, waiting_filter_isStructural, hwaiting]
      have hwhole : waiting (before ++ inside) = [] := by
        rw [← waiting_filter_isStructural, List.filter_append, hinside,
          hc.waiting_append_operations]
      rw [waiting_append hremaining, waiting_append hwhole]

end Remaining

namespace WellFormed

variable {maxDepth i : Nat} {operations remaining : List Operation} {root c e : Component}

/-- What remains of a well-formed list is well-formed, and stands for the pruned tree. -/
theorem of_deletes (h : WellFormed maxDepth operations) (hroot : root.Proper)
    (hoperations : root.operations = operations.filter Operation.isStructural)
    (hpruned : Component.Pruned c i root e) (hdeletes : Deletes c.operations operations remaining) :
    WellFormed maxDepth remaining ∧
      e.operations = remaining.filter Operation.isStructural := by
  obtain ⟨before, inside, after, rfl, hinside, rfl⟩ := hdeletes
  obtain ⟨hc, he⟩ := hpruned.proper hroot
  obtain ⟨front, back, hwhole, hpart, hfront⟩ := hpruned.exists_operations hroot
  have hnames := h.componentIds
  rw [← Component.filterMap_filter_isStructural, ← hoperations, hwhole] at hnames
  -- what was deleted are the operations that the pruned tree lacks
  simp only [hwhole, List.filter_append, hinside] at hoperations
  obtain ⟨rfl, rfl⟩ := Component.operations_place_unique hnames hoperations
  have hremaining : e.operations =
      (before ++ declarations inside ++ after).filter Operation.isStructural := by
    simp only [hpart, List.filter_append, filter_isStructural_declarations, List.append_nil]
  have hwaiting : waiting before = [] := by
    rw [← waiting_filter_isStructural]
    exact hfront []
  have hsublist : (before ++ declarations inside ++ after).Sublist (before ++ inside ++ after) :=
    (List.filter_sublist.append_left before).append_right after
  refine ⟨?_, hremaining⟩
  constructor
  · rw [← filter_isLayout_filter_isStructural, ← hremaining]
    apply he.oneScope
    rw [hpruned.kind_eq]
    exact hpruned.isContainer hroot
  · refine forall_followed_iff.2 ⟨?_, fun front back hsplit => ?_⟩
    · rw [← waiting_filter_isStructural, ← hremaining]
      exact he.waiting_append_operations []
    · obtain ⟨front', back', hsplit', -, hsame⟩ :=
        exists_place_of_remaining hc hinside hwaiting rfl hsplit
      rw [hsame]
      exact (forall_followed_iff.1 h.followed).2 front' back' hsplit'
  · intro front id kind back hsplit
    obtain ⟨front', back', hsplit', hsame, -⟩ :=
      exists_place_of_remaining hc hinside hwaiting rfl hsplit
    rw [hsame]
    exact h.nesting front' id kind back' hsplit'
  · exact h.variableIds.sublist (hsublist.filterMap _)
  · exact h.componentIds.sublist (hsublist.filterMap _)
  · exact h.actionIds.sublist (hsublist.filterMap _)
  · intro trigger ids hmem id hid
    obtain ⟨effect, hdeclared⟩ := h.declared trigger ids (hsublist.subset hmem) id hid
    refine ⟨effect, ?_⟩
    simp only [List.mem_append, declarations, List.mem_filter] at hdeclared ⊢
    simpa [Operation.isStructural, Operation.isLayout] using hdeclared

end WellFormed

/-! ## Variables and actions -/

namespace Assembly

variable {maxDepth : Nat} {a a' b : Assembly} {operations : List Operation} {op : Operation}

/-- The same variables and actions are declared. -/
structure SameTables (a b : Assembly) : Prop where
  store : a.store = b.store
  derived : a.derived = b.derived
  actions : a.actions = b.actions

theorem SameTables.attach (h : SameTables a b) (c : Component) : SameTables a (b.attach c) where
  store := h.store.trans (store_attach c).symm
  derived := h.derived.trans (derived_attach c).symm
  actions := h.actions.trans (actions_attach c).symm

theorem sameTables_of_step (hop : op.isStructural = true) (hstep : step maxDepth a op = .ok b) :
    SameTables a b := by
  cases op with
  | component id kind =>
      obtain ⟨-, -, -, rfl⟩ := component_eq_ok.1 hstep
      split
      · exact ⟨rfl, rfl, rfl⟩
      · apply SameTables.attach
        exact ⟨rfl, rfl, rfl⟩
  | containerEnd =>
      obtain ⟨-, s, outer, -, rfl⟩ := close_eq_ok.1 hstep
      apply SameTables.attach
      exact ⟨rfl, rfl, rfl⟩
  | modifier m =>
      cases hstep
      exact ⟨rfl, rfl, rfl⟩
  | _ => contradiction

theorem SameTables.step (h : SameTables a a') (hop : op.isStructural = false)
    (hstep : step maxDepth a op = .ok b) :
    ∃ b', Assembly.step maxDepth a' op = .ok b' ∧ SameTables b b' := by
  obtain ⟨hstore, hderived, hactions⟩ := h
  cases op with
  | value id value =>
      obtain ⟨store, hinsert, rfl⟩ := declare_eq_ok.1 hstep
      rw [hstore] at hinsert
      exact ⟨_, declare_eq_ok.2 ⟨store, hinsert, rfl⟩, rfl, hderived, hactions⟩
  | name id name =>
      cases hstep
      refine ⟨_, rfl, ?_, hderived, hactions⟩
      rw [hstore]
  | derived d =>
      obtain ⟨store, hinsert, rfl⟩ := derive_eq_ok.1 hstep
      rw [hstore] at hinsert
      refine ⟨_, derive_eq_ok.2 ⟨store, hinsert, rfl⟩, rfl, ?_, hactions⟩
      rw [hderived]
  | action declared =>
      obtain ⟨hid, rfl⟩ := action_eq_ok.1 hstep
      rw [hactions] at hid
      refine ⟨_, action_eq_ok.2 ⟨hid, rfl⟩, hstore, hderived, ?_⟩
      rw [hactions]
  | _ => contradiction

theorem SameTables.foldlM (h : SameTables a a')
    (hrun : operations.foldlM (Assembly.step maxDepth) a = .ok b) :
    ∃ b', (declarations operations).foldlM (Assembly.step maxDepth) a' = .ok b' ∧
      SameTables b b' := by
  induction operations generalizing a a' with
  | nil =>
      cases hrun
      exact ⟨a', rfl, h⟩
  | cons op operations ih =>
      rw [List.foldlM_cons, Result.bind_eq_ok] at hrun
      obtain ⟨m, hstep, hrest⟩ := hrun
      cases hop : op.isStructural with
      | true =>
          have hsame := sameTables_of_step hop hstep
          rw [declarations, List.filter_cons_of_neg (by simp [hop])]
          exact ih ⟨hsame.store.symm.trans h.store, hsame.derived.symm.trans h.derived,
            hsame.actions.symm.trans h.actions⟩ hrest
      | false =>
          obtain ⟨m', hstep', hsame⟩ := h.step hop hstep
          obtain ⟨b', hrest', hb⟩ := ih hsame hrest
          rw [declarations, List.filter_cons_of_pos (by simp [hop]), List.foldlM_cons]
          exact ⟨b', Result.bind_eq_ok.2 ⟨m', hstep', hrest'⟩, hb⟩

end Assembly

namespace Content

variable {maxDepth i : Nat} {operations remaining : List Operation} {content : Content}
  {c e : Component}

theorem tables_of_ofOperations {content' : Content}
    (h : ofOperations operations maxDepth = .ok content)
    (h' : ofOperations remaining maxDepth = .ok content')
    (hsame : declarations remaining = declarations operations) :
    content'.store = content.store ∧ content'.derived = content.derived ∧
      content'.actions = content.actions := by
  obtain ⟨a, hrun, hfinish⟩ := ofOperations_eq_ok.1 h
  obtain ⟨a', hrun', hfinish'⟩ := ofOperations_eq_ok.1 h'
  -- both runs declare what the run of the declarations alone does
  obtain ⟨b, hdeclared, hb⟩ := Assembly.SameTables.foldlM ⟨rfl, rfl, rfl⟩ hrun
  obtain ⟨b', hdeclared', hb'⟩ := Assembly.SameTables.foldlM ⟨rfl, rfl, rfl⟩ hrun'
  rw [hsame, hdeclared] at hdeclared'
  cases hdeclared'
  obtain ⟨-, -, root, -, -, rfl⟩ := Assembly.finish_eq_ok.1 hfinish
  obtain ⟨-, -, root', -, -, rfl⟩ := Assembly.finish_eq_ok.1 hfinish'
  exact ⟨hb'.store.trans hb.store.symm, hb'.derived.trans hb.derived.symm,
    hb'.actions.trans hb.actions.symm⟩

theorem exists_deletes (h : ofOperations operations maxDepth = .ok content)
    (hpruned : Component.Pruned c i content.tree.root e) :
    ∃ remaining, Deletes c.operations operations remaining := by
  obtain ⟨hoperations, hproper⟩ := root_of_ofOperations h
  obtain ⟨front, back, hsplit, -, -⟩ := hpruned.exists_operations hproper
  obtain ⟨whole, after, rfl, hwhole, -⟩ :=
    List.filter_eq_append_iff.1 (hoperations.symm.trans hsplit)
  obtain ⟨before, inside, rfl, -, hinside⟩ := List.filter_eq_append_iff.1 hwhole
  exact ⟨_, before, inside, after, rfl, hinside, rfl⟩

/-- What remains when a component is deleted builds the pruned tree and nothing else anew. -/
theorem ofOperations_of_deletes (h : ofOperations operations maxDepth = .ok content)
    (hpruned : Component.Pruned c i content.tree.root e)
    (hdeletes : Deletes c.operations operations remaining) :
    ofOperations remaining maxDepth = .ok { content with tree := ⟨e⟩ } := by
  obtain ⟨hoperations, hproper⟩ := root_of_ofOperations h
  obtain ⟨hwellFormed, hremaining⟩ :=
    (wellFormed_of_ofOperations h).of_deletes hproper hoperations hpruned hdeletes
  obtain ⟨a, hrun⟩ := Assembly.exists_foldlM_eq_ok.2 fun _ _ _ hsplit =>
    hwellFormed.admissible hsplit
  obtain ⟨content', hfinish⟩ := Assembly.finish_of_wellFormed hrun hwellFormed
  have h' := ofOperations_eq_ok.2 ⟨a, hrun, hfinish⟩
  obtain ⟨hoperations', hproper'⟩ := root_of_ofOperations h'
  -- the tree that is built is the one that the remaining operations spell
  have htree : content'.tree.root = e :=
    hproper'.operations_injective (hpruned.proper hproper).2 (hoperations'.trans hremaining.symm)
  have hdeclarations : declarations remaining = declarations operations := by
    obtain ⟨before, inside, after, rfl, -, rfl⟩ := hdeletes
    simp only [declarations_append, declarations_declarations]
  obtain ⟨hstore, hderived, hactions⟩ := tables_of_ofOperations h h' hdeclarations
  obtain ⟨store, derived, ⟨root⟩, actions⟩ := content'
  cases htree
  cases hstore
  cases hderived
  cases hactions
  exact h'

end Content

end Panel
