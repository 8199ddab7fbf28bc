import Panel.Proofs.Content.WellFormed

/-!
# The operations that a tree stands for

A walk over a tree writes down what it meets: for each component its modifiers, the component
itself and its children, and for a container the end.
-/

namespace Panel.Component

mutual

/-- The operations that declare a tree. -/
def operations : Component → List Operation
  | node id kind modifiers children =>
    modifiers.map .modifier ++ .component id kind ::
      (operationsAll children ++ if kind.isContainer then [.containerEnd] else [])

/-- The operations that declare trees one after the other. -/
def operationsAll : List Component → List Operation
  | [] => []
  | c :: rest => c.operations ++ operationsAll rest

end

theorem operationsAll_append (front back : List Component) :
    operationsAll (front ++ back) = operationsAll front ++ operationsAll back := by
  induction front with
  | nil => rfl
  | cons c front ih =>
      rw [List.cons_append, operationsAll, operationsAll, ih, List.append_assoc]

theorem operationsAll_singleton (c : Component) : operationsAll [c] = c.operations := by
  rw [operationsAll, operationsAll, List.append_nil]

mutual

theorem mem_operations_modifier {m : Modifier} :
    (c : Component) → (.modifier m ∈ c.operations ↔ ∃ n ∈ c.preorder, m ∈ n.modifiers)
  | node id kind modifiers children => by
      have hchildren := mem_operationsAll_modifier (m := m) children
      have hend : Operation.modifier m ∉
          if kind.isContainer then [Operation.containerEnd] else [] := by
        split <;> simp
      simp [operations, preorder, hchildren, hend, Component.modifiers]

theorem mem_operationsAll_modifier {m : Modifier} :
    (cs : List Component) → (.modifier m ∈ operationsAll cs ↔ ∃ n ∈ preorderAll cs, m ∈ n.modifiers)
  | [] => by simp [operationsAll, preorderAll]
  | c :: rest => by
      have hc := mem_operations_modifier (m := m) c
      have hrest := mem_operationsAll_modifier (m := m) rest
      simp only [operationsAll, preorderAll, List.mem_append, hc, hrest, or_and_right, exists_or]

end

/-! ## Proper trees -/

/-- Only containers have children. -/
inductive Proper : Component → Prop where
  | container {id kind modifiers children} (hkind : kind.isContainer = true)
      (hchildren : ∀ c ∈ children, Proper c) : Proper (node id kind modifiers children)
  | leaf {id kind modifiers} (hkind : kind.isContainer = false) :
      Proper (node id kind modifiers [])

theorem Proper.of_mem {id : ComponentId} {kind : ComponentKind} {modifiers : Modifiers}
    {children : List Component} {c : Component} (h : (node id kind modifiers children).Proper)
    (hc : c ∈ children) : kind.isContainer = true ∧ c.Proper := by
  cases h with
  | container hkind hchildren => exact ⟨hkind, hchildren c hc⟩
  | leaf => exact absurd hc List.not_mem_nil

/-- What is true of the children around one of them. -/
theorem Proper.parts {id : ComponentId} {kind : ComponentKind} {modifiers : Modifiers}
    {front back : List Component} {c : Component}
    (h : (node id kind modifiers (front ++ c :: back)).Proper) :
    kind.isContainer = true ∧ c.Proper ∧ (∀ x ∈ front, x.Proper) ∧ ∀ x ∈ back, x.Proper := by
  obtain ⟨hkind, hc⟩ := h.of_mem (List.mem_append_right front List.mem_cons_self)
  refine ⟨hkind, hc, fun x hx => ?_, fun x hx => ?_⟩
  · exact (h.of_mem (List.mem_append_left _ hx)).2
  · exact (h.of_mem (List.mem_append_right _ (List.mem_cons_of_mem _ hx))).2

theorem siblings_operationsAll {cs : List Component}
    (h : ∀ c ∈ cs, Siblings (c.operations.filter Operation.isLayout)) :
    Siblings ((operationsAll cs).filter Operation.isLayout) := by
  induction cs with
  | nil => exact .nil
  | cons c cs ih =>
      rw [List.forall_mem_cons] at h
      rw [operationsAll, List.filter_append]
      exact h.1.append (ih h.2)

theorem filter_isLayout_map_modifier (modifiers : Modifiers) :
    (modifiers.map Operation.modifier).filter Operation.isLayout = [] := by
  simp [Operation.isLayout]

theorem countP_opens_map_modifier (modifiers : Modifiers) :
    (modifiers.map Operation.modifier).countP Operation.opens = 0 := by
  simp [Operation.opens]

theorem countP_closes_map_modifier (modifiers : Modifiers) :
    (modifiers.map Operation.modifier).countP Operation.closes = 0 := by
  simp [Operation.closes]

theorem filter_isLayout_operations_container {id : ComponentId} {kind : ComponentKind}
    {modifiers : Modifiers} {children : List Component} (hkind : kind.isContainer = true) :
    (node id kind modifiers children).operations.filter Operation.isLayout =
      .component id kind ::
        ((operationsAll children).filter Operation.isLayout ++ [.containerEnd]) := by
  rw [operations, List.filter_append, filter_isLayout_map_modifier, if_pos hkind]
  simp [Operation.isLayout, List.filter_cons]

theorem filter_isLayout_operations_leaf {id : ComponentId} {kind : ComponentKind}
    {modifiers : Modifiers} (hkind : kind.isContainer = false) :
    (node id kind modifiers []).operations.filter Operation.isLayout = [.component id kind] := by
  rw [operations, List.filter_append, filter_isLayout_map_modifier, hkind]
  simp [operationsAll, Operation.isLayout, List.filter_cons]

theorem Proper.siblings {c : Component} (h : c.Proper) :
    Siblings (c.operations.filter Operation.isLayout) := by
  induction h with
  | container hkind _ ih =>
      rw [filter_isLayout_operations_container hkind]
      exact .scope hkind (siblings_operationsAll ih) .nil
  | leaf hkind =>
      rw [filter_isLayout_operations_leaf hkind]
      exact .leaf hkind .nil

theorem Proper.oneScope {c : Component} (h : c.Proper) (hkind : c.kind.isContainer = true) :
    OneScope (c.operations.filter Operation.isLayout) := by
  cases h with
  | @container id kind modifiers children _ hchildren =>
      exact ⟨id, kind, _, hkind, siblings_operationsAll fun c hc => (hchildren c hc).siblings,
        filter_isLayout_operations_container hkind⟩
  | leaf hleaf =>
      rw [kind, hleaf] at hkind
      contradiction

/-! ## A tree from its operations -/

theorem map_modifier_append_inj {ms ns : Modifiers} {id id' : ComponentId}
    {kind kind' : ComponentKind} {rest rest' : List Operation}
    (h : ms.map .modifier ++ .component id kind :: rest =
      ns.map .modifier ++ .component id' kind' :: rest') :
    ms = ns ∧ id = id' ∧ kind = kind' ∧ rest = rest' := by
  induction ms generalizing ns with
  | nil =>
      cases ns with
      | nil =>
          cases h
          exact ⟨rfl, rfl, rfl, rfl⟩
      | cons n ns => simp at h
  | cons m ms ih =>
      cases ns with
      | nil => simp at h
      | cons n ns =>
          simp only [List.map_cons, List.cons_append, List.cons.injEq,
            Operation.modifier.injEq] at h
          obtain ⟨rfl, hrest⟩ := h
          obtain ⟨rfl, hcomponent⟩ := ih hrest
          exact ⟨rfl, hcomponent⟩

theorem containerEnd_cons_ne (c : Component) (rest rest' : List Operation) :
    .containerEnd :: rest ≠ c.operations ++ rest' := by
  obtain ⟨id, kind, modifiers, children⟩ := c
  cases modifiers <;> simp [operations]

mutual

/-- The operations of a tree determine it, and where they end. -/
theorem Proper.operations_append_inj {rest rest' : List Operation} :
    (c d : Component) → c.Proper → d.Proper → c.operations ++ rest = d.operations ++ rest' →
      c = d ∧ rest = rest'
  | node id kind modifiers children, node id' kind' modifiers' children', hc, hd, h => by
      simp only [operations, List.append_assoc, List.cons_append] at h
      obtain ⟨rfl, rfl, rfl, hrest⟩ := map_modifier_append_inj h
      cases hc with
      | container hkind hchildren =>
          rw [if_pos hkind] at hrest
          obtain ⟨rfl, rfl⟩ := Proper.operationsAll_append_inj children children' hchildren
            (fun x hx => (hd.of_mem hx).2) hrest
          exact ⟨rfl, rfl⟩
      | leaf hkind =>
          cases hd with
          | container hcontainer =>
              rw [hkind] at hcontainer
              contradiction
          | leaf =>
              rw [hkind] at hrest
              exact ⟨rfl, hrest⟩

theorem Proper.operationsAll_append_inj {rest rest' : List Operation} :
    (cs ds : List Component) → (∀ c ∈ cs, c.Proper) → (∀ d ∈ ds, d.Proper) →
      operationsAll cs ++ .containerEnd :: rest = operationsAll ds ++ .containerEnd :: rest' →
      cs = ds ∧ rest = rest'
  | [], [], _, _, h => ⟨rfl, (List.cons.inj h).2⟩
  | [], d :: ds, _, _, h => by
      rw [operationsAll, operationsAll, List.append_assoc] at h
      exact absurd h (containerEnd_cons_ne d rest _)
  | c :: cs, [], _, _, h => by
      rw [operationsAll, operationsAll, List.append_assoc] at h
      exact absurd h.symm (containerEnd_cons_ne c rest' _)
  | c :: cs, d :: ds, hc, hd, h => by
      rw [List.forall_mem_cons] at hc hd
      rw [operationsAll, operationsAll, List.append_assoc, List.append_assoc] at h
      obtain ⟨rfl, hrest⟩ := Proper.operations_append_inj c d hc.1 hd.1 h
      obtain ⟨rfl, rfl⟩ := Proper.operationsAll_append_inj cs ds hc.2 hd.2 hrest
      exact ⟨rfl, rfl⟩

end

theorem Proper.operations_injective {c d : Component} (hc : c.Proper) (hd : d.Proper)
    (h : c.operations = d.operations) : c = d :=
  (Proper.operations_append_inj c d hc hd (congrArg (· ++ []) h)).1

end Panel.Component
