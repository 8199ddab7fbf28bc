import Panel.Proofs.Content.Step

/-!
# The operations behind an assembly

`Assembly.Trace before a` relates an assembly to the operations that led to it.  A step is taken
exactly if the operation is admissible after these, and it leads to an assembly related to all of
them.
-/

namespace Panel

/-- What is true of every open container. -/
structure Scope.Sound (s : Scope) : Prop where
  kind : s.kind.isContainer = true
  children : ∀ c ∈ s.children, c.Proper

theorem Scope.Sound.close {s : Scope} (h : s.Sound) : s.close.Proper :=
  .container h.kind h.children

namespace Assembly

variable {maxDepth : Nat} {a b : Assembly} {before : List Operation} {op : Operation}

/-- The operations that the tree built so far stands for, with what is still waiting or open. -/
def operations (a : Assembly) : List Operation :=
  a.root.toList.flatMap Component.operations ++ a.scopes.reverse.flatMap Scope.operations ++
    a.pending.map .modifier

/-- The names in the tables are those that the operations declare. -/
structure Tables (before : List Operation) (a : Assembly) : Prop where
  store : a.store.ids = before.filterMap Operation.declaredVariable?
  components : a.components = before.filterMap Operation.declaredComponent?
  actions : a.actions.map (·.id) = before.filterMap Operation.declaredAction?

/-- The tree, finished or not, is what the structural operations spell. -/
structure Shape (before : List Operation) (a : Assembly) : Prop where
  operations : a.operations = before.filter Operation.isStructural
  pending : a.pending = waiting before
  opened : a.scopes.length + before.countP Operation.closes = before.countP Operation.opens
  /-- Nothing is finished while a container is open. -/
  unfinished : a.scopes ≠ [] → a.root = none
  untouched : a.scopes = [] → (a.root = none ↔ before.filter Operation.isLayout = [])
  scopes : ∀ s ∈ a.scopes, s.Sound
  root : ∀ c, a.root = some c → c.Proper ∧ c.kind.isContainer = true

/-- What an assembly has to do with the operations that led to it. -/
structure Trace (before : List Operation) (a : Assembly) : Prop where
  tables : Tables before a
  shape : Shape before a

/-! ## Attaching a component -/

theorem store_attach (c : Component) : (a.attach c).store = a.store := by
  unfold attach
  split <;> rfl

theorem derived_attach (c : Component) : (a.attach c).derived = a.derived := by
  unfold attach
  split <;> rfl

theorem components_attach (c : Component) : (a.attach c).components = a.components := by
  unfold attach
  split <;> rfl

theorem actions_attach (c : Component) : (a.attach c).actions = a.actions := by
  unfold attach
  split <;> rfl

theorem pending_attach (c : Component) : (a.attach c).pending = a.pending := by
  unfold attach
  split <;> rfl

theorem length_scopes_attach (c : Component) :
    (a.attach c).scopes.length = a.scopes.length := by
  unfold attach
  split <;> simp [*]

theorem scopes_attach_eq_nil (c : Component) : (a.attach c).scopes = [] ↔ a.scopes = [] := by
  rw [← List.length_eq_zero_iff, length_scopes_attach, List.length_eq_zero_iff]

theorem operations_attach {c : Component} (hroot : a.root = none) (hpending : a.pending = []) :
    (a.attach c).operations = a.operations ++ c.operations := by
  cases hscopes : a.scopes with
  | nil => simp [attach, operations, hscopes, hroot, hpending]
  | cons s outer =>
      simp [attach, operations, hscopes, hroot, hpending, Scope.operations,
        Component.operationsAll_append, Component.operationsAll_singleton]

theorem scopes_attach {c : Component} (hscopes : ∀ s ∈ a.scopes, s.Sound)
    (hc : c.Proper) : ∀ s ∈ (a.attach c).scopes, s.Sound := by
  unfold attach
  split
  · exact hscopes
  · next s outer heq =>
      rw [heq, List.forall_mem_cons] at hscopes
      refine List.forall_mem_cons.2 ⟨⟨hscopes.1.kind, ?_⟩, hscopes.2⟩
      exact List.forall_mem_append.2 ⟨hscopes.1.children, List.forall_mem_singleton.2 hc⟩

theorem root_attach {c : Component} :
    (a.attach c).root = if a.scopes = [] then some c else a.root := by
  unfold attach
  split <;> simp [*]

/-! ## Tables -/

theorem Tables.concat (h : Tables before a)
    (hstore : b.store.ids = a.store.ids ++ op.declaredVariable?.toList)
    (hcomponents : b.components = a.components ++ op.declaredComponent?.toList)
    (hactions : b.actions.map (·.id) = a.actions.map (·.id) ++ op.declaredAction?.toList) :
    Tables (before ++ [op]) b := by
  have hsingle {α : Type} (f : Operation → Option α) : [op].filterMap f = (f op).toList := by
    cases hop : f op <;> simp [hop]
  constructor
  · rw [hstore, h.store, List.filterMap_append, hsingle]
  · rw [hcomponents, h.components, List.filterMap_append, hsingle]
  · rw [hactions, h.actions, List.filterMap_append, hsingle]

theorem Tables.step (h : Tables before a) (hstep : step maxDepth a op = .ok b) :
    Tables (before ++ [op]) b := by
  cases op with
  | value id value =>
      obtain ⟨store, hinsert, rfl⟩ := declare_eq_ok.1 hstep
      exact h.concat (Store.ids_of_insert hinsert) (List.append_nil _).symm
        (List.append_nil _).symm
  | name id name =>
      cases hstep
      exact h.concat (List.append_nil _).symm (List.append_nil _).symm (List.append_nil _).symm
  | derived declaration =>
      obtain ⟨store, hinsert, rfl⟩ := derive_eq_ok.1 hstep
      exact h.concat (Store.ids_of_insert hinsert) (List.append_nil _).symm
        (List.append_nil _).symm
  | component id kind =>
      obtain ⟨-, -, -, rfl⟩ := component_eq_ok.1 hstep
      split
      · exact h.concat (List.append_nil _).symm rfl (List.append_nil _).symm
      · apply h.concat
        · rw [store_attach]
          exact (List.append_nil _).symm
        · rw [components_attach]
          rfl
        · rw [actions_attach]
          exact (List.append_nil _).symm
  | containerEnd =>
      obtain ⟨-, s, outer, -, rfl⟩ := close_eq_ok.1 hstep
      apply h.concat
      · rw [store_attach]
        exact (List.append_nil _).symm
      · rw [components_attach]
        exact (List.append_nil _).symm
      · rw [actions_attach]
        exact (List.append_nil _).symm
  | modifier m =>
      cases hstep
      exact h.concat (List.append_nil _).symm (List.append_nil _).symm (List.append_nil _).symm
  | action declared =>
      obtain ⟨-, rfl⟩ := action_eq_ok.1 hstep
      exact h.concat (List.append_nil _).symm (List.append_nil _).symm List.map_append

/-! ## Shape -/

theorem Shape.root_eq_none (h : Shape before a)
    (hroot : a.scopes = [] → a.root = none) : a.root = none := by
  by_cases hscopes : a.scopes = []
  · exact hroot hscopes
  · exact h.unfinished hscopes

theorem Shape.step_other (h : Shape before a) (hop : op.isStructural = false)
    (hpending : b.pending = a.pending) (hscopes : b.scopes = a.scopes) (hroot : b.root = a.root) :
    Shape (before ++ [op]) b := by
  have hlayout : op.isLayout = false ∧ op.opens = false ∧ op.closes = false := by
    cases op <;> first | contradiction | exact ⟨rfl, rfl, rfl⟩
  obtain ⟨hlayout, hopens, hcloses⟩ := hlayout
  exact
    { operations := by simp [Assembly.operations, hpending, hscopes, hroot, ← h.operations, hop]
      pending := by rw [waiting_concat_other hop, hpending, h.pending]
      opened := by simpa [hscopes, hopens, hcloses] using h.opened
      unfinished := by rw [hscopes, hroot]; exact h.unfinished
      untouched := by simpa [hscopes, hroot, hlayout] using h.untouched
      scopes := by rw [hscopes]; exact h.scopes
      root := by rw [hroot]; exact h.root }

/-- A complete component is attached: a leaf at once, a container when its end comes. -/
theorem Shape.attach {c : Component} (hop : op.isLayout = true) (hroot : a.root = none)
    (hpending : a.pending = []) (hscopes : ∀ s ∈ a.scopes, s.Sound)
    (hoperations : a.operations ++ c.operations = (before ++ [op]).filter Operation.isStructural)
    (hopened : a.scopes.length + (before ++ [op]).countP Operation.closes =
      (before ++ [op]).countP Operation.opens)
    (hc : c.Proper) (hkind : a.scopes = [] → c.kind.isContainer = true) :
    Shape (before ++ [op]) (a.attach c) where
  operations := by rw [operations_attach hroot hpending, hoperations]
  pending := by rw [pending_attach, hpending, waiting_concat_layout hop]
  opened := by rw [length_scopes_attach, hopened]
  unfinished := by
    intro hopen
    rw [ne_eq, scopes_attach_eq_nil] at hopen
    rw [root_attach, if_neg hopen, hroot]
  untouched := by
    intro hclosed
    rw [scopes_attach_eq_nil] at hclosed
    rw [root_attach, if_pos hclosed]
    simp [hop]
  scopes := scopes_attach hscopes hc
  root := by
    intro d hd
    rw [root_attach] at hd
    split at hd
    · next houter =>
        cases hd
        exact ⟨hc, hkind houter⟩
    · rw [hroot] at hd
      contradiction

theorem Shape.step_component {id : ComponentId} {kind : ComponentKind} (h : Shape before a)
    (hstep : a.component maxDepth id kind = .ok b) :
    Shape (before ++ [.component id kind]) b := by
  obtain ⟨hroot, -, -, rfl⟩ := component_eq_ok.1 hstep
  have hnone := h.root_eq_none fun hscopes => (hroot hscopes).1
  have hopened := h.opened
  cases hkind : kind.isContainer with
  | true =>
      exact
        { operations := by
            simp [Assembly.operations, ← h.operations, Operation.isStructural, Operation.isLayout,
              List.filter_cons, Scope.operations, Component.operationsAll]
          pending := (waiting_concat_layout rfl).symm
          opened := by
            simp only [List.countP_append, List.countP_singleton, Operation.opens,
              Operation.closes, hkind, if_true, Bool.false_eq_true, if_false, List.length_cons]
            omega
          unfinished := fun _ => hnone
          untouched := fun hscopes => absurd hscopes (by simp)
          scopes := List.forall_mem_cons.2 ⟨⟨hkind, by simp⟩, h.scopes⟩
          root := by simp [hnone] }
  | false =>
      have hleaf : (Component.node id kind a.pending []).operations =
          a.pending.map .modifier ++ [.component id kind] := by
        simp [Component.operations, Component.operationsAll, hkind]
      rw [if_neg Bool.false_ne_true]
      apply Shape.attach
      · rfl
      · exact hnone
      · rfl
      · exact h.scopes
      · simp [hleaf, Assembly.operations, ← h.operations, Operation.isStructural,
          Operation.isLayout, List.filter_cons]
      · simpa [Operation.opens, Operation.closes, hkind] using hopened
      · exact .leaf hkind
      · exact fun hscopes => (hroot hscopes).2

theorem Shape.step_close (h : Shape before a) (hstep : a.close = .ok b) :
    Shape (before ++ [.containerEnd]) b := by
  obtain ⟨hpending, s, outer, hscopes, rfl⟩ := close_eq_ok.1 hstep
  have hsound := h.scopes
  rw [hscopes, List.forall_mem_cons] at hsound
  apply Shape.attach
  · rfl
  · exact h.unfinished (by simp [hscopes])
  · exact hpending
  · exact hsound.2
  · rw [Scope.operations_close hsound.1.kind]
    simp [Assembly.operations, ← h.operations, hscopes, hpending, Operation.isStructural,
      Operation.isLayout, List.filter_cons]
  · have hopened := h.opened
    rw [hscopes, List.length_cons] at hopened
    simp only [List.countP_append, List.countP_singleton, Operation.opens, Operation.closes,
      if_true, Bool.false_eq_true, if_false]
    omega
  · exact hsound.1.close
  · exact fun _ => hsound.1.kind

theorem Shape.step_modifier {m : Modifier} (h : Shape before a) :
    Shape (before ++ [.modifier m]) { a with pending := a.pending ++ [m] } where
  operations := by
    simp [Assembly.operations, ← h.operations, List.filter_cons, Operation.isStructural]
  pending := by rw [waiting_concat_modifier, ← h.pending]
  opened := by simpa [Operation.opens, Operation.closes] using h.opened
  unfinished := h.unfinished
  untouched := by simpa [Operation.isLayout] using h.untouched
  scopes := h.scopes
  root := h.root

theorem Shape.step (h : Shape before a) (hstep : step maxDepth a op = .ok b) :
    Shape (before ++ [op]) b := by
  cases op with
  | value id value =>
      obtain ⟨store, -, rfl⟩ := declare_eq_ok.1 hstep
      exact h.step_other rfl rfl rfl rfl
  | name id name =>
      cases hstep
      exact h.step_other rfl rfl rfl rfl
  | derived declaration =>
      obtain ⟨store, -, rfl⟩ := derive_eq_ok.1 hstep
      exact h.step_other rfl rfl rfl rfl
  | component id kind => exact h.step_component hstep
  | containerEnd => exact h.step_close hstep
  | modifier m =>
      cases hstep
      exact h.step_modifier
  | action declared =>
      obtain ⟨-, rfl⟩ := action_eq_ok.1 hstep
      exact h.step_other rfl rfl rfl rfl

/-! ## Runs -/

theorem trace_start : Trace [] start where
  tables := ⟨rfl, rfl, rfl⟩
  shape :=
    { operations := rfl
      pending := rfl
      opened := rfl
      unfinished := fun _ => rfl
      untouched := fun _ => iff_of_true rfl rfl
      scopes := fun _ hs => absurd hs List.not_mem_nil
      root := fun _ hroot => absurd hroot (by simp [start]) }

theorem Trace.step (h : Trace before a) (hstep : step maxDepth a op = .ok b) :
    Trace (before ++ [op]) b :=
  ⟨h.tables.step hstep, h.shape.step hstep⟩

/-- Every run leads to an assembly that is related to the operations of the run. -/
theorem trace_of_foldlM {operations : List Operation}
    (hrun : operations.foldlM (Assembly.step maxDepth) start = .ok a) : Trace operations a := by
  induction operations using List.reverseRecOn generalizing a with
  | nil =>
      cases hrun
      exact trace_start
  | append_singleton operations op ih =>
      obtain ⟨m, hfront, hstep⟩ := Result.foldlM_concat_eq_ok.1 hrun
      exact (ih hfront).step hstep

theorem Shape.enclosing_eq (h : Shape before a) : enclosing before = a.scopes.length := by
  have hopened := h.opened
  unfold enclosing
  omega

/-- A step is taken exactly if the operation may come next. -/
theorem Trace.exists_step_eq_ok (h : Trace before a) :
    (∃ b, Assembly.step maxDepth a op = .ok b) ↔ op.Admissible maxDepth before := by
  obtain ⟨⟨hstore, hcomponents, hactions⟩, hshape⟩ := h
  cases op with
  | value id value =>
      rw [Operation.Admissible, ← hstore, ← Store.exists_insert_eq_ok _ id value]
      simp [Assembly.step, declare_eq_ok]
  | name id name => exact iff_of_true ⟨_, rfl⟩ trivial
  | derived declaration =>
      rw [Operation.Admissible, ← hstore,
        ← Store.exists_insert_eq_ok _ declaration.id (.default declaration.recipe.kind)]
      simp [Assembly.step, derive_eq_ok]
  | component id kind =>
      have hroot : (a.scopes = [] → a.root = none ∧ kind.isContainer = true) ↔
          (a.scopes.length = 0 →
            before.filter Operation.isLayout = [] ∧ kind.isContainer = true) := by
        rw [List.length_eq_zero_iff]
        exact imp_congr_right fun hscopes => and_congr_left' (hshape.untouched hscopes)
      rw [Operation.Admissible, hshape.enclosing_eq, ← hcomponents, ← hroot]
      simp [Assembly.step, component_eq_ok]
  | containerEnd =>
      rw [Operation.Admissible, hshape.enclosing_eq, ← hshape.pending]
      have hopen : (∃ s outer, a.scopes = s :: outer) ↔ 0 < a.scopes.length := by
        rw [List.length_pos_iff, List.ne_nil_iff_exists_cons]
      rw [← hopen]
      simp [Assembly.step, close_eq_ok]
  | modifier m => exact iff_of_true ⟨_, rfl⟩ trivial
  | action declared =>
      rw [Operation.Admissible, ← hactions]
      simp [Assembly.step, action_eq_ok]

theorem exists_foldlM_eq_ok {operations : List Operation} :
    (∃ a, operations.foldlM (Assembly.step maxDepth) start = .ok a) ↔
      ∀ before op after, operations = before ++ op :: after → op.Admissible maxDepth before := by
  induction operations using List.reverseRecOn with
  | nil => exact iff_of_true ⟨start, rfl⟩ fun _ _ _ hsplit => absurd hsplit (by simp)
  | append_singleton operations op ih =>
      rw [forall_split_concat, ← ih]
      simp only [Result.foldlM_concat_eq_ok]
      constructor
      · intro ⟨b, a, hrun, hstep⟩
        exact ⟨⟨a, hrun⟩, (trace_of_foldlM hrun).exists_step_eq_ok.1 ⟨b, hstep⟩⟩
      · intro ⟨⟨a, hrun⟩, hadmissible⟩
        obtain ⟨b, hstep⟩ := (trace_of_foldlM hrun).exists_step_eq_ok.2 hadmissible
        exact ⟨b, a, hrun, hstep⟩

end Assembly

end Panel
