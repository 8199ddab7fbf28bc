import Panel.Proofs.Content.Trace

/-!
# Which lists of operations are accepted

A tree is built from a list of operations exactly if the list is well-formed, and it then stands
for just the structural operations of the list, in their order.
-/

namespace Panel

/-! ## Bound actions -/

/-- All actions that modifiers of some operations bind are declared by others. -/
theorem forall_declared_iff {modifiers operations : List Operation} :
    (∀ trigger ids, .modifier (.touchAction trigger ids) ∈ modifiers → ∀ id ∈ ids,
        ∃ effect, .action ⟨id, effect⟩ ∈ operations) ↔
      ∀ m, .modifier m ∈ modifiers → ∀ id ∈ m.actions,
        id ∈ operations.filterMap Operation.declaredAction? := by
  have hdeclared (id : ActionId) : (∃ effect, .action ⟨id, effect⟩ ∈ operations) ↔
      id ∈ operations.filterMap Operation.declaredAction? := by
    rw [List.mem_filterMap]
    constructor
    · intro ⟨effect, hmem⟩
      exact ⟨_, hmem, rfl⟩
    · intro ⟨op, hmem, hid⟩
      cases op with
      | action declared =>
          cases hid
          exact ⟨declared.effect, hmem⟩
      | _ => contradiction
  simp only [hdeclared]
  constructor
  · intro h m hm id hid
    cases m with
    | touchAction trigger ids => exact h trigger ids hm id hid
    | _ => contradiction
  · intro h trigger ids hm
    exact h (.touchAction trigger ids) hm

namespace Assembly

variable {maxDepth : Nat} {a : Assembly} {operations : List Operation} {content : Content}

theorem undeclared?_eq_none_iff {actions : List Action} {root : Component} :
    undeclared? actions root = none ↔ ∀ m, .modifier m ∈ root.operations → ∀ id ∈ m.actions,
      id ∈ actions.map (·.id) := by
  simp only [undeclared?, List.find?_eq_none, List.mem_flatMap, Component.mem_operations_modifier]
  constructor
  · intro h m ⟨n, hn, hm⟩ id hid
    simpa using h id ⟨n, hn, m, hm, hid⟩
  · rintro h id ⟨n, hn, m, hm, hid⟩
    simpa using h m ⟨n, hn, hm⟩ id hid

theorem finish_eq_ok :
    a.finish = .ok content ↔ a.pending = [] ∧ a.scopes = [] ∧ ∃ root, a.root = some root ∧
      undeclared? a.actions root = none ∧ content = ⟨a.store, a.derived, ⟨root⟩, a.actions⟩ := by
  simp only [finish, Result.ite_error_eq_ok, Bool.not_eq_true', Bool.not_eq_false,
    List.isEmpty_iff]
  refine and_congr_right' (and_congr_right' ?_)
  cases a.root with
  | none => simp
  | some root =>
      cases hmissing : undeclared? a.actions root with
      | none =>
          simp only [hmissing, Result.ok_eq_ok]
          simp [hmissing]
      | some id => simp [hmissing]

theorem Shape.operations_root {root : Component} (h : Shape operations a)
    (hpending : a.pending = []) (hscopes : a.scopes = []) (hroot : a.root = some root) :
    root.operations = operations.filter Operation.isStructural := by
  rw [← h.operations]
  simp [Assembly.operations, hpending, hscopes, hroot]

theorem undeclared?_eq_none_iff_declared {root : Component} (h : Trace operations a)
    (hoperations : root.operations = operations.filter Operation.isStructural) :
    undeclared? a.actions root = none ↔
      ∀ trigger ids, .modifier (.touchAction trigger ids) ∈ operations → ∀ id ∈ ids,
        ∃ effect, .action ⟨id, effect⟩ ∈ operations := by
  rw [undeclared?_eq_none_iff, hoperations, h.tables.actions, forall_declared_iff]
  simp [Operation.isStructural]

theorem wellFormed_of_finish (hrun : operations.foldlM (step maxDepth) start = .ok a)
    (hfinish : a.finish = .ok content) : WellFormed maxDepth operations := by
  have htrace := trace_of_foldlM hrun
  obtain ⟨hpending, hscopes, root, hroot, hdeclared, -⟩ := finish_eq_ok.1 hfinish
  have hoperations := htrace.shape.operations_root hpending hscopes hroot
  apply wellFormed_of_admissible
  · exact exists_foldlM_eq_ok.1 ⟨a, hrun⟩
  · obtain ⟨hproper, hkind⟩ := htrace.shape.root root hroot
    have hscope := hproper.oneScope hkind
    rwa [hoperations, filter_isLayout_filter_isStructural] at hscope
  · rw [← htrace.shape.pending, hpending]
  · exact (undeclared?_eq_none_iff_declared htrace hoperations).1 hdeclared

theorem finish_of_wellFormed (hrun : operations.foldlM (step maxDepth) start = .ok a)
    (h : WellFormed maxDepth operations) : ∃ content, a.finish = .ok content := by
  have htrace := trace_of_foldlM hrun
  have hpending : a.pending = [] := by
    rw [htrace.shape.pending]
    exact (forall_followed_iff.1 h.followed).1
  have hscopes : a.scopes = [] := by
    have hbalanced := h.countP_closes
    have hopened := htrace.shape.opened
    exact List.length_eq_zero_iff.1 (by omega)
  have hroot : a.root ≠ none := by
    obtain ⟨id, kind, inner, -, -, hlayout⟩ := h.scope
    rw [ne_eq, htrace.shape.untouched hscopes, hlayout]
    exact List.cons_ne_nil _ _
  obtain ⟨root, hroot⟩ := Option.ne_none_iff_exists'.1 hroot
  have hoperations := htrace.shape.operations_root hpending hscopes hroot
  have hdeclared := (undeclared?_eq_none_iff_declared htrace hoperations).2 h.declared
  exact ⟨_, finish_eq_ok.2 ⟨hpending, hscopes, root, hroot, hdeclared, rfl⟩⟩

end Assembly

theorem Content.ofOperations_eq_ok {operations : List Operation} {maxDepth : Nat}
    {content : Content} :
    ofOperations operations maxDepth = .ok content ↔
      ∃ a, operations.foldlM (Assembly.step maxDepth) .start = .ok a ∧ a.finish = .ok content :=
  Result.bind_eq_ok

theorem Content.wellFormed_of_ofOperations {operations : List Operation} {maxDepth : Nat}
    {content : Content} (h : ofOperations operations maxDepth = .ok content) :
    WellFormed maxDepth operations := by
  obtain ⟨a, hrun, hfinish⟩ := ofOperations_eq_ok.1 h
  exact Assembly.wellFormed_of_finish hrun hfinish

theorem Content.root_of_ofOperations {operations : List Operation} {maxDepth : Nat}
    {content : Content} (h : ofOperations operations maxDepth = .ok content) :
    content.tree.root.operations = operations.filter Operation.isStructural ∧
      content.tree.root.Proper := by
  obtain ⟨a, hrun, hfinish⟩ := ofOperations_eq_ok.1 h
  obtain ⟨hpending, hscopes, root, hroot, -, rfl⟩ := Assembly.finish_eq_ok.1 hfinish
  have hshape := (Assembly.trace_of_foldlM hrun).shape
  exact ⟨hshape.operations_root hpending hscopes hroot, (hshape.root root hroot).1⟩

/-- A tree is built exactly from the well-formed lists, and a walk over it gives back their
structural operations. -/
theorem Content.ofOperations_accepts_wellFormed (operations : List Operation) (maxDepth : Nat) :
    ((∃ content, ofOperations operations maxDepth = .ok content) ↔
        WellFormed maxDepth operations) ∧
      ∀ content, ofOperations operations maxDepth = .ok content →
        content.tree.root.operations = operations.filter Operation.isStructural := by
  refine ⟨⟨?_, ?_⟩, ?_⟩
  · intro ⟨content, hcontent⟩
    exact wellFormed_of_ofOperations hcontent
  · intro h
    obtain ⟨a, hrun⟩ := Assembly.exists_foldlM_eq_ok.2 fun _ _ _ hsplit => h.admissible hsplit
    obtain ⟨content, hfinish⟩ := Assembly.finish_of_wellFormed hrun h
    exact ⟨content, ofOperations_eq_ok.2 ⟨a, hrun, hfinish⟩⟩
  · intro content hcontent
    exact (root_of_ofOperations hcontent).1

theorem Content.ofOperations_accepts_wellFormed_button :
    let operations : List Operation :=
      [.modifier (.width .fill), .component ⟨1⟩ (.box ⟨.center, .center⟩),
        .modifier (.touchAction .down [⟨7⟩]), .value ⟨2⟩ (.int 0), .component ⟨9⟩ .spacer,
        .containerEnd, .action ⟨⟨7⟩, .setInteger ⟨2⟩ 1⟩]
    WellFormed 2 operations ∧ ∃ content, ofOperations operations 2 = .ok content ∧
      content.tree.root.operations =
        [.modifier (.width .fill), .component ⟨1⟩ (.box ⟨.center, .center⟩),
          .modifier (.touchAction .down [⟨7⟩]), .component ⟨9⟩ .spacer, .containerEnd] := by
  intro operations
  obtain ⟨haccepted, hwalk⟩ := ofOperations_accepts_wellFormed operations 2
  obtain ⟨content, hcontent⟩ : ∃ content, ofOperations operations 2 = .ok content := ⟨_, rfl⟩
  exact ⟨haccepted.1 ⟨content, hcontent⟩, content, hcontent, hwalk content hcontent⟩

end Panel
