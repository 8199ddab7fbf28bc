import Panel.Proofs.Layout.Found
import Panel.Proofs.Paint.Alike

/-!
# Invisible components

An invisible component keeps its space.  Where a component is visible in one tree over one store,
and invisible in another that is the same otherwise, the layouts are the same, and the calls for
painting are too, but for those for the component and all below it, which are missing.
-/

namespace Panel

/-- Two trees, over two stores, show the same, but for one component that is visible in the first
and invisible in the second. -/
structure Hides (i : Nat) (t : ComponentTree) (s : Store) (t' : ComponentTree) (s' : Store) :
    Prop where
  trees : t'.root.withoutVisibility = t.root.withoutVisibility
  visible : ∃ n, t.node? i = some n ∧ (n.appearance s).visibility = .visible
  invisible : ∀ n n', t.node? i = some n → t'.node? i = some n' →
    n'.appearance s' = { n.appearance s with visibility := .invisible }
  others : ∀ j n n', j ≠ i → t.node? j = some n → t'.node? j = some n' →
    n'.appearance s' = n.appearance s

namespace Hides

variable {t t' : ComponentTree} {s s' : Store} {i : Nat} {n n' : Node} {id : VariableId}

/-- The component takes its visibility from a variable that nothing else is taken from. -/
theorem of_store (hnode : t.node? i = some n)
    (hsource : Modifiers.visibility n.modifiers = .reference id)
    (hvisible : (VisibilitySource.reference id).resolve s = .visible)
    (hinvisible : (VisibilitySource.reference id).resolve s' = .invisible)
    (hown : id ∉ n.kind.reads ++ n.modifiers.filterMap Modifier.color?)
    (hothers : ∀ j m, j ≠ i → t.node? j = some m → id ∉ m.reads)
    (hsame : ∀ other, other ≠ id → s'.get other = s.get other) : Hides i t s t s' where
  trees := rfl
  visible := by
    refine ⟨n, hnode, ?_⟩
    rwa [Node.appearance, Modifiers.resolvedVisibility, hsource]
  invisible := by
    intro m m' hm hm'
    obtain rfl := Option.some.inj (hnode.symm.trans hm)
    obtain rfl := Option.some.inj (hnode.symm.trans hm')
    have hsees (reading : Reading) (other : VariableId) (htakes : n.Takes reading other)
        (hreading : reading ≠ .visibility) : n.SeesSame s s' other := by
      refine .inl (hsame other ?_)
      rintro rfl
      exact hown (htakes.mem_of_ne_visibility hreading)
    have hcolors := Node.colors_congr hsees
    dsimp only [Node.appearance] at hcolors
    rw [Node.appearance, Node.appearance, Node.shows_congr hsees, hcolors,
      Modifiers.resolvedVisibility, hsource, hinvisible]
  others := by
    intro j m m' hj hm hm'
    obtain rfl := Option.some.inj (hm.symm.trans hm')
    apply Node.appearance_congr
    intro other hother
    apply hsame
    rintro rfl
    exact hothers j m hj hm hother

/-- The component has other modifiers for visibility in the other tree. -/
theorem of_tree (htrees : t'.root.withoutVisibility = t.root.withoutVisibility)
    (hnode : t.node? i = some n) (hnode' : t'.node? i = some n')
    (hvisible : Modifiers.resolvedVisibility s n.modifiers = .visible)
    (hinvisible : Modifiers.resolvedVisibility s n'.modifiers = .invisible)
    (hothers : ∀ j, j ≠ i → t'.node? j = t.node? j) : Hides i t s t' s where
  trees := htrees
  visible := ⟨n, hnode, hvisible⟩
  invisible := by
    intro m m' hm hm'
    obtain rfl := Option.some.inj (hnode.symm.trans hm)
    obtain rfl := Option.some.inj (hnode'.symm.trans hm')
    have hbare := ComponentTree.map_node?_withoutVisibility htrees i
    rw [hnode, hnode', Option.map_some, Option.map_some, Option.some_inj] at hbare
    have hkind : n'.kind = n.kind := (Node.mk.inj hbare).2.1
    have hmodifiers : Modifiers.withoutVisibility n'.modifiers =
        Modifiers.withoutVisibility n.modifiers := (Node.mk.inj hbare).2.2.1
    have hcolors : n'.modifiers.filterMap Modifier.color? =
        n.modifiers.filterMap Modifier.color? := by
      rw [← Modifiers.filterMap_withoutVisibility (fun _ => rfl), hmodifiers,
        Modifiers.filterMap_withoutVisibility fun _ => rfl]
    rw [Node.appearance, Node.appearance, hkind, hcolors, hinvisible]
  others := by
    intro j m m' hj hm hm'
    rw [hothers j hj, hm] at hm'
    rw [Option.some.inj hm']

/-! ## Trees -/

theorem parent_eq (h : Hides i t s t' s') (j : Nat) :
    (t'.node? j).bind (·.parent) = (t.node? j).bind (·.parent) := by
  have hbare := ComponentTree.map_node?_withoutVisibility h.trees j
  have hparent := congrArg (Option.bind · Node.parent) hbare
  rwa [Option.bind_map, Option.bind_map] at hparent

theorem size_eq (h : Hides i t s t' s') : t'.size = t.size := Component.size_congr h.trees

theorem ancestors_eq (h : Hides i t s t' s') (j : Nat) : t'.ancestors j = t.ancestors j := by
  have hclimb (steps : Nat) (current : Option Nat) :
      ComponentTree.climb t'.nodes steps current = ComponentTree.climb t.nodes steps current := by
    induction steps generalizing current with
    | zero => rfl
    | succ steps ih =>
        cases current with
        | none => rfl
        | some k =>
            have hparent : t'.nodes[k]?.bind (·.parent) = t.nodes[k]?.bind (·.parent) :=
              h.parent_eq k
            rw [ComponentTree.climb, ComponentTree.climb, ih, hparent]
  rw [ComponentTree.ancestors, ComponentTree.ancestors, h.parent_eq, h.size_eq, hclimb]

/-- The trees have components of the same numbers. -/
theorem node?_cases (h : Hides i t s t' s') (j : Nat) :
    t.node? j = none ∧ t'.node? j = none ∨ ∃ m m', t.node? j = some m ∧ t'.node? j = some m' ∧
      m'.withoutVisibility = m.withoutVisibility ∧
      m'.appearance s' =
        if j = i then { m.appearance s with visibility := .invisible } else m.appearance s := by
  have hbare := ComponentTree.map_node?_withoutVisibility h.trees j
  cases hm : t.node? j with
  | none =>
      rw [hm, Option.map_none, Option.map_eq_none_iff] at hbare
      exact .inl ⟨rfl, hbare⟩
  | some m =>
      rw [hm, Option.map_some, Option.map_eq_some_iff] at hbare
      obtain ⟨m', hm', hbare⟩ := hbare
      refine .inr ⟨m, m', rfl, hm', hbare, ?_⟩
      by_cases hj : j = i
      · subst hj
        rw [if_pos rfl]
        exact h.invisible m m' hm hm'
      · rw [if_neg hj]
        exact h.others j m m' hj hm hm'

theorem flows_eq (h : Hides i t s t' s') : t'.root.flows s' = t.root.flows s := by
  apply List.ext_getElem?
  intro j
  rw [Component.flows, Component.flows, List.getElem?_map, List.getElem?_map,
    ComponentTree.getElem?_unlinked, ComponentTree.getElem?_unlinked]
  rcases h.node?_cases j with ⟨hm, hm'⟩ | ⟨m, m', hm, hm', -, happearance⟩
  · rw [hm, hm']
    rfl
  · have hflow : m'.flow s' = m.flow s := by
      rw [Node.flow, Node.flow, happearance]
      split
      · next hj =>
          obtain ⟨n, hn, hvisible⟩ := h.visible
          rw [hj, hn] at hm
          obtain rfl := Option.some.inj hm
          rw [hvisible]
          rfl
      · rfl
    rw [hm, hm']
    exact congrArg some hflow

/-! ## Layouts -/

variable {textMeasure : TextMeasure} {viewport : Size} {j : Nat}

/-- Entries of the two layouts differ in nothing but the visibility, and that only for the
component. -/
theorem placements_eq (h : Hides i t s t' s') (l : Layout) (j : Nat) :
    (l.compute t' ⟨s', textMeasure⟩ viewport).placements[j]? =
      (l.compute t ⟨s, textMeasure⟩ viewport).placements[j]?.map fun p =>
        if j = i then { p with visibility := .invisible } else p := by
  rw [Layout.getElem?_placements_compute, Layout.getElem?_placements_compute, h.size_eq,
    ComponentTree.bounds_congr h.trees h.flows_eq]
  rcases h.node?_cases j with ⟨hm, hm'⟩ | ⟨m, m', hm, hm', -, happearance⟩
  · rw [hm, hm']
    cases (if l.size = t.size then l else .fresh t.size).placements[j]? <;> rfl
  · have hvisibility : Modifiers.resolvedVisibility s' m'.modifiers =
        if j = i then .invisible else Modifiers.resolvedVisibility s m.modifiers := by
      have hvisibility := congrArg Appearance.visibility happearance
      rwa [apply_ite Appearance.visibility] at hvisibility
    rw [hm, hm']
    cases (if l.size = t.size then l else .fresh t.size).placements[j]? with
    | none => rfl
    | some p =>
        cases (t.bounds ⟨s, textMeasure⟩ viewport)[j]? with
        | none => rfl
        | some bounds =>
            simp only [Option.bind_some, Option.map_some, hvisibility]
            split <;> cases bounds <;> rfl

theorem map_placements_eq {α : Type} {f : Placement → α}
    (hf : ∀ (p : Placement) visibility, f { p with visibility } = f p) (h : Hides i t s t' s')
    (l : Layout) (j : Nat) :
    (l.compute t' ⟨s', textMeasure⟩ viewport).placements[j]?.map f =
      (l.compute t ⟨s, textMeasure⟩ viewport).placements[j]?.map f := by
  rw [h.placements_eq, Option.map_map]
  congr 1
  funext p
  rw [Function.comp_apply]
  split
  · exact hf p _
  · rfl

theorem phase_eq (h : Hides i t s t' s') (l : Layout) (j : Nat) :
    (l.compute t' ⟨s', textMeasure⟩ viewport).phase j =
      (l.compute t ⟨s, textMeasure⟩ viewport).phase j := by
  rw [Layout.phase, Layout.phase, h.map_placements_eq fun _ _ => rfl]

theorem bounds_eq (h : Hides i t s t' s') (l : Layout) (j : Nat) :
    (l.compute t' ⟨s', textMeasure⟩ viewport).bounds j =
      (l.compute t ⟨s, textMeasure⟩ viewport).bounds j := by
  rw [Layout.bounds, Layout.bounds, h.map_placements_eq fun _ _ => rfl]

theorem isShown_eq (h : Hides i t s t' s') (l : Layout) (j : Nat) :
    (l.compute t' ⟨s', textMeasure⟩ viewport).isShown j =
      ((l.compute t ⟨s, textMeasure⟩ viewport).isShown j && decide (j ≠ i)) := by
  rw [Layout.isShown, Layout.isShown, Layout.isPlaced, Layout.isPlaced, h.phase_eq,
    Layout.visibility, Layout.visibility, h.placements_eq]
  by_cases hj : j = i
  · rw [decide_eq_false (not_not_intro hj), Bool.and_false, Layout.phase]
    cases (l.compute t ⟨s, textMeasure⟩ viewport).placements[j]? with
    | none => rfl
    | some p => simp [hj, Visibility.isDrawn]
  · simp [hj]

/-! ## Painting -/

/-- What is not drawn any more is the component and all below it. -/
theorem drawn_eq (h : Hides i t s t' s') (l : Layout) :
    t'.drawn (l.compute t' ⟨s', textMeasure⟩ viewport) =
      (t.drawn (l.compute t ⟨s, textMeasure⟩ viewport)).filter (· ∉ t.subtree i) := by
  obtain ⟨n, hnode, -⟩ := h.visible
  obtain ⟨above, children, hi, -⟩ := ComponentTree.exists_at_of_node? hnode
  rw [ComponentTree.drawn, ComponentTree.drawn, List.filter_filter, h.size_eq]
  apply List.filter_congr
  intro j hj
  obtain ⟨outer, c, hjat⟩ := Component.exists_at (List.mem_range.1 hj)
  rw [Bool.eq_iff_iff, Bool.and_eq_true, decide_eq_true_iff, ComponentTree.mem_subtree_iff hi hjat,
    ComponentTree.isDrawn_iff, ComponentTree.isDrawn_iff, h.ancestors_eq]
  simp only [h.isShown_eq, Bool.and_eq_true, decide_eq_true_iff]
  constructor
  · intro hall
    refine ⟨?_, fun k hk => (hall k hk).1⟩
    rintro (rfl | hi)
    · exact (hall i List.mem_cons_self).2 rfl
    · exact (hall i (.tail _ hi)).2 rfl
  · rintro ⟨houtside, hall⟩ k hk
    refine ⟨hall k hk, ?_⟩
    rintro rfl
    rcases List.mem_cons.1 hk with hk | hk
    · exact houtside (.inl hk)
    · exact houtside (.inr hk)

theorem paintAt_eq (h : Hides i t s t' s') (l : Layout) (hj : j ≠ i) :
    t'.paintAt s' (l.compute t' ⟨s', textMeasure⟩ viewport) j =
      t.paintAt s (l.compute t ⟨s, textMeasure⟩ viewport) j := by
  rw [ComponentTree.paintAt, ComponentTree.paintAt, h.bounds_eq]
  rcases h.node?_cases j with ⟨hm, hm'⟩ | ⟨m, m', hm, hm', hbare, happearance⟩
  · rw [hm, hm']
  · rw [if_neg hj] at happearance
    rw [hm, hm']
    exact Node.paint_congr hbare (congrArg Appearance.content happearance)
      (congrArg Appearance.colors happearance)

end Hides

/-! ## Hiding a component -/

/-- Ascending numbers come to those below a bound before they come to the others. -/
theorem filter_lt_append_filter_le {js : List Nat} (h : js.Pairwise (· < ·)) (bound : Nat) :
    js.filter (· < bound) ++ js.filter (bound ≤ ·) = js := by
  induction h with
  | nil => rfl
  | @cons j js hj _ ih =>
      by_cases hlt : j < bound
      · rw [List.filter_cons, List.filter_cons, if_pos (decide_eq_true hlt),
          if_neg (by simpa using hlt), List.cons_append, ih]
      · have hnone : js.filter (· < bound) = [] := by
          rw [List.filter_eq_nil_iff]
          intro k hk
          have hlt := hj k hk
          rw [decide_eq_true_iff]
          omega
        rw [hnone, List.nil_append] at ih
        rw [List.filter_cons, List.filter_cons, if_neg (by simpa using hlt),
          if_pos (by simpa using hlt), hnone, List.nil_append, ih]

/-- Among ascending numbers, those in an interval stand together. -/
theorem exists_split_filter_range' {js : List Nat} (h : js.Pairwise (· < ·)) (first count : Nat) :
    ∃ after, js = js.filter (· < first) ++ js.filter (· ∈ List.range' first count) ++ after ∧
      js.filter (· ∉ List.range' first count) = js.filter (· < first) ++ after := by
  have hinside : (js.filter (first ≤ ·)).filter (· < first + count) =
      js.filter (· ∈ List.range' first count) := by
    rw [List.filter_filter]
    apply List.filter_congr
    intro j _
    rw [← Bool.decide_and, decide_eq_decide, List.mem_range'_1, and_comm]
  have hafter : (js.filter (first ≤ ·)).filter (first + count ≤ ·) =
      js.filter (first + count ≤ ·) := by
    rw [List.filter_filter]
    apply List.filter_congr
    intro j _
    rw [← Bool.decide_and, decide_eq_decide]
    omega
  refine ⟨js.filter (first + count ≤ ·), ?_, ?_⟩
  · rw [← hinside, ← hafter, List.append_assoc, filter_lt_append_filter_le (h.filter _),
      filter_lt_append_filter_le h]
  · rw [← filter_lt_append_filter_le (h.filter (· ∉ List.range' first count)) first,
      List.filter_filter, List.filter_filter]
    congr 1
    · apply List.filter_congr
      intro j _
      rw [← Bool.decide_and, decide_eq_decide, List.mem_range'_1]
      omega
    · apply List.filter_congr
      intro j _
      rw [← Bool.decide_and, decide_eq_decide, List.mem_range'_1]
      omega

namespace ComponentTree

variable {t t' : ComponentTree} {s s' : Store} {i : Nat}

/-- To hide a component changes nothing in the layout.  Of the calls for painting, it takes away
just those for the component and all below it, which follow one another. -/
theorem paint_of_hides (h : Hides i t s t' s') (textMeasure : TextMeasure) (viewport : Size)
    (l : Layout) :
    let shown := l.compute t ⟨s, textMeasure⟩ viewport
    let hidden := l.compute t' ⟨s', textMeasure⟩ viewport
    let calls (components : List Nat) := components.flatMap (t.paintAt s shown)
    (∀ j, hidden.phase j = shown.phase j ∧ hidden.bounds j = shown.bounds j) ∧
      Cut (calls ((t.drawn shown).filter (· ∈ t.subtree i)))
        (calls ((t.drawn shown).filter (· < i))).length (t.paint s shown) (t'.paint s' hidden) := by
  intro shown hidden calls
  refine ⟨fun j => ⟨h.phase_eq l j, h.bounds_eq l j⟩, ?_⟩
  obtain ⟨n, hnode, -⟩ := h.visible
  obtain ⟨above, children, hi, -⟩ := exists_at_of_node? hnode
  have hself : i ∈ t.subtree i := (mem_subtree_iff hi hi).2 (.inl rfl)
  have hascending : (t.drawn shown).Pairwise (· < ·) := List.pairwise_lt_range.filter _
  obtain ⟨after, hdrawn, hkept⟩ := exists_split_filter_range' hascending i _
  rw [← subtree_eq hi] at hdrawn hkept
  have hpaint : t'.paint s' hidden =
      calls ((t.drawn shown).filter (· ∉ t.subtree i)) := by
    rw [paint_eq, h.drawn_eq]
    apply List.flatMap_congr
    intro j hj
    apply h.paintAt_eq
    rintro rfl
    exact of_decide_eq_true (List.mem_filter.1 hj).2 hself
  have hcalls (front back : List Nat) : calls (front ++ back) = calls front ++ calls back :=
    List.flatMap_append
  refine ⟨_, calls after, ?_, ?_, rfl⟩
  · calc t.paint s shown
        = calls (t.drawn shown) := paint_eq t s shown
      _ = calls (_ ++ _ ++ after) := congrArg calls hdrawn
      _ = _ := by rw [hcalls, hcalls]
  · rw [hpaint, hkept, hcalls]

/-- A box with a background and a text: its four calls follow the two for the background of the
row.  It is hidden by a variable, and by another modifier. -/
theorem paint_of_hides_box :
    let t (source : VisibilitySource) : ComponentTree :=
      ⟨.node ⟨1⟩ (.row ⟨.start, .center, .one⟩) [.background ⟨2⟩]
        [.node ⟨2⟩ (.box ⟨.start, .start⟩) [.background ⟨2⟩, .visibility source]
          [.node ⟨3⟩ (.text (.regular ⟨1⟩ ⟨2⟩ .one)) [] []],
          .node ⟨4⟩ (.text (.regular ⟨1⟩ ⟨2⟩ .one)) [] []]⟩
    let s (value : Int32) : Store :=
      ⟨[⟨⟨1⟩, .text "a", false⟩, ⟨⟨3⟩, .int value, false⟩], [], 4⟩
    let ctx (store : Store) : MeasureContext := ⟨store, fun _ _ => ⟨.one, .one⟩⟩
    let layout (t : ComponentTree) (s : Store) : Layout := Layout.empty.compute t (ctx s) .empty
    let takesAway (t₁ t₂ : ComponentTree) (s₁ s₂ : Store) : Prop :=
      Hides 1 t₁ s₁ t₂ s₂ ∧ (∀ j, (layout t₂ s₂).bounds j = (layout t₁ s₁).bounds j) ∧
        ∃ block, block.length = 4 ∧
          Cut block 2 (t₁.paint s₁ (layout t₁ s₁)) (t₂.paint s₂ (layout t₂ s₂))
    takesAway (t (.reference ⟨3⟩)) (t (.reference ⟨3⟩)) (s 0) (s 1) ∧
      takesAway (t (.literal .visible)) (t (.literal .invisible)) (s 0) (s 0) := by
  intro t s ctx layout takesAway
  have htakesAway (t₁ t₂ : ComponentTree) (s₁ s₂ : Store) (h : Hides 1 t₁ s₁ t₂ s₂)
      (hlengths : (((t₁.drawn (layout t₁ s₁)).filter (· ∈ t₁.subtree 1)).flatMap
          (t₁.paintAt s₁ (layout t₁ s₁))).length = 4 ∧
        (((t₁.drawn (layout t₁ s₁)).filter (· < 1)).flatMap
          (t₁.paintAt s₁ (layout t₁ s₁))).length = 2) : takesAway t₁ t₂ s₁ s₂ := by
    obtain ⟨hsame, hcut⟩ := paint_of_hides h (fun _ _ => ⟨.one, .one⟩) .empty .empty
    rw [hlengths.2] at hcut
    exact ⟨h, fun j => (hsame j).2, _, hlengths.1, hcut⟩
  constructor
  · refine htakesAway _ _ _ _ (Hides.of_store rfl rfl rfl rfl ?_ ?_ ?_) (by decide +kernel)
    · decide
    · intro j m hj hm
      have hothers : ∀ j, j ≠ 1 → ∀ m ∈ (t (.reference ⟨3⟩)).node? j, ⟨3⟩ ∉ m.reads := by
        intro j hj
        rcases j with _ | _ | _ | _ | j
        · decide
        · contradiction
        · decide
        · decide
        · intro m hm
          contradiction
      exact hothers j hj m hm
    · intro other hother
      have hne : ¬(⟨3⟩ : VariableId) = other := Ne.symm hother
      simp [s, Store.get, Store.slot?, List.find?_cons, hne]
  · refine htakesAway _ _ _ _ (Hides.of_tree rfl rfl rfl rfl rfl ?_) (by decide +kernel)
    intro j hj
    rcases j with _ | _ | j
    · rfl
    · contradiction
    · rfl

end ComponentTree

end Panel
