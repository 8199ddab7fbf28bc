import Panel.Proofs.Component.Consistent
import Panel.Proofs.Content.Accepted

/-!
# Trees that are built

The operations of a tree declare its components in the order of their numbers, and a component is
declared while just the containers around it are open.  So the names in a tree that is built are
distinct, and it is no deeper than it may be.
-/

namespace Panel

namespace Component

mutual

theorem map_id_flatten (parent : Option Nat) (index : Nat) :
    (c : Component) → (c.flatten parent index).map (·.id) =
      c.operations.filterMap Operation.declaredComponent?
  | node id kind modifiers children => by
      have hmodifiers : (modifiers.map Operation.modifier).filterMap
          Operation.declaredComponent? = [] := by
        simp [Operation.declaredComponent?]
      have hend : (if kind.isContainer then [Operation.containerEnd] else []).filterMap
          Operation.declaredComponent? = [] := by
        split <;> rfl
      rw [flatten, operations, List.map_cons, map_id_flattenAll index (index + 1) children,
        List.filterMap_append, hmodifiers, List.nil_append,
        List.filterMap_cons_some (by rfl), List.filterMap_append, hend, List.append_nil]

theorem map_id_flattenAll (parent index : Nat) :
    (cs : List Component) → (flattenAll parent index cs).map (·.id) =
      (operationsAll cs).filterMap Operation.declaredComponent?
  | [] => rfl
  | c :: rest => by
      rw [flattenAll, operationsAll, List.map_append, List.filterMap_append, map_id_flatten _ _ c,
        map_id_flattenAll _ _ rest]

end

theorem countP_opens_operationsAll {cs : List Component} (h : ∀ c ∈ cs, c.Proper) :
    (operationsAll cs).countP Operation.opens = (operationsAll cs).countP Operation.closes := by
  have hbalanced := (siblings_operationsAll fun c hc => (h c hc).siblings).countP_opens
  rwa [countP_opens_filter_isLayout, countP_closes_filter_isLayout] at hbalanced

/-- A component is declared where just the components above it are open. -/
theorem At.exists_operations {root c : Component} {above : List Nat} {i : Nat}
    (h : At root above i c) (hroot : root.Proper) :
    c.Proper ∧ ∃ before after, root.operations = before ++ c.operations ++ after ∧
      before.countP Operation.opens = before.countP Operation.closes + above.length := by
  induction h with
  | root => exact ⟨hroot, [], [], by simp, rfl⟩
  | @child above i id kind modifiers front c back _ ih =>
      obtain ⟨hproper, before, after, hoperations, hcount⟩ := ih
      obtain ⟨hkind, hc⟩ := hproper.of_mem (List.mem_append_right _ List.mem_cons_self)
      have hbalanced := countP_opens_operationsAll fun d hd =>
        (hproper.of_mem (List.mem_append_left (c :: back) hd)).2
      rw [operations, operationsAll_append, operationsAll, if_pos hkind] at hoperations
      refine ⟨hc, before ++ modifiers.map .modifier ++ .component id kind :: operationsAll front,
        operationsAll back ++ .containerEnd :: after, ?_, ?_⟩
      · rw [hoperations]
        simp
      · simp only [List.countP_append, List.countP_cons, countP_opens_map_modifier,
          countP_closes_map_modifier, hbalanced, hcount, Operation.opens, Operation.closes, hkind,
          List.length_cons, if_true, Bool.false_eq_true, if_false]
        omega

theorem filterMap_filter_isStructural (operations : List Operation) :
    (operations.filter Operation.isStructural).filterMap Operation.declaredComponent? =
      operations.filterMap Operation.declaredComponent? := by
  rw [List.filterMap_filter]
  apply List.filterMap_congr
  intro op _
  cases op <;> rfl

theorem enclosing_filter_isStructural (operations : List Operation) :
    enclosing (operations.filter Operation.isStructural) = enclosing operations := by
  rw [enclosing, ← countP_opens_filter_isLayout, ← countP_closes_filter_isLayout,
    filter_isLayout_filter_isStructural, countP_opens_filter_isLayout,
    countP_closes_filter_isLayout, enclosing]

theorem At.length_above_lt {root c : Component} {above : List Nat} {i maxDepth : Nat}
    {operations : List Operation} (h : At root above i c) (hroot : root.Proper)
    (hoperations : root.operations = operations.filter Operation.isStructural)
    (hnesting : ∀ before id kind after, operations = before ++ .component id kind :: after →
      enclosing before < maxDepth) : above.length < maxDepth := by
  obtain ⟨-, before, after, hsplit, hcount⟩ := h.exists_operations hroot
  obtain ⟨id, kind, modifiers, children⟩ := c
  rw [hoperations, Component.operations, List.append_assoc, List.append_assoc, ← List.append_assoc,
    List.cons_append] at hsplit
  obtain ⟨front, back, hsplit, hfront, hback⟩ := List.filter_eq_append_iff.1 hsplit
  obtain ⟨between, rest, rfl, hbetween, -, -⟩ := List.filter_eq_cons_iff.1 hback
  rw [← List.append_assoc] at hsplit
  have hlt := hnesting _ id kind rest hsplit
  rw [← enclosing_filter_isStructural, List.filter_append, hfront,
    List.filter_eq_nil_iff.2 hbetween, List.append_nil, enclosing, List.countP_append,
    List.countP_append, countP_opens_map_modifier, countP_closes_map_modifier] at hlt
  omega

end Component

namespace Content

variable {operations : List Operation} {maxDepth : Nat} {content : Content}

theorem nodup_ids_of_ofOperations (h : ofOperations operations maxDepth = .ok content) :
    (content.tree.nodes.map (·.id)).Nodup := by
  rw [ComponentTree.nodes, Component.map_id_flatten, (root_of_ofOperations h).1,
    Component.filterMap_filter_isStructural]
  exact (wellFormed_of_ofOperations h).componentIds

theorem length_above_lt_of_ofOperations (h : ofOperations operations maxDepth = .ok content)
    {above : List Nat} {i : Nat} {c : Component} (hat : Component.At content.tree.root above i c) :
    above.length < maxDepth := by
  obtain ⟨hoperations, hproper⟩ := root_of_ofOperations h
  exact hat.length_above_lt hproper hoperations (wellFormed_of_ofOperations h).nesting

/-- In a tree that is built, links, numbers and names agree with each other. -/
theorem ofOperations_tree_consistent (h : ofOperations operations maxDepth = .ok content) :
    content.tree.Consistent maxDepth := by
  apply ComponentTree.consistent (nodup_ids_of_ofOperations h)
  intro above i c hat
  exact length_above_lt_of_ofOperations h hat

theorem ofOperations_tree_consistent_boxes :
    let tree : ComponentTree := ⟨.node ⟨4⟩ (.box ⟨.center, .center⟩) []
      [.node ⟨7⟩ (.box ⟨.start, .finish⟩) [] [.node ⟨5⟩ .spacer [] []], .node ⟨9⟩ .spacer [] []]⟩
    ofOperations
        [.component ⟨4⟩ (.box ⟨.center, .center⟩), .component ⟨7⟩ (.box ⟨.start, .finish⟩),
          .component ⟨5⟩ .spacer, .containerEnd, .component ⟨9⟩ .spacer, .containerEnd] 3 =
        .ok ⟨.blank, [], tree, []⟩ ∧
      tree.Consistent 3 := by
  intro tree
  have hbuilt : ofOperations
      [.component ⟨4⟩ (.box ⟨.center, .center⟩), .component ⟨7⟩ (.box ⟨.start, .finish⟩),
        .component ⟨5⟩ .spacer, .containerEnd, .component ⟨9⟩ .spacer, .containerEnd] 3 =
      .ok ⟨.blank, [], tree, []⟩ := rfl
  exact ⟨hbuilt, ofOperations_tree_consistent hbuilt⟩

end Content

end Panel
