import Panel.Proofs.Layout.Alike

/-!
# What layout and painting take from the variables

Layout and painting look only at variables that the components mention.  So stores which agree on
these make no difference to either, not even where a variable is missing or of another kind.
-/

namespace Panel

variable {s s' : Store} {bounds : Bounds}

theorem Modifiers.flatMap_paint_withoutVisibility (store : Store) (bounds : Bounds)
    (ms : Modifiers) :
    (withoutVisibility ms).flatMap (Modifier.paint store bounds) =
      ms.flatMap (Modifier.paint store bounds) := by
  induction ms with
  | nil => rfl
  | cons m ms ih =>
      rw [withoutVisibility] at ih ⊢
      cases m with
      | visibility source => exact ih
      | _ => rw [List.filter_cons_of_pos rfl, List.flatMap_cons, List.flatMap_cons, ih]

theorem Modifiers.flatMap_paint_congr {ms : Modifiers}
    (h : (ms.filterMap Modifier.color?).map s'.resolveColor =
      (ms.filterMap Modifier.color?).map s.resolveColor) :
    ms.flatMap (Modifier.paint s' bounds) = ms.flatMap (Modifier.paint s bounds) := by
  rw [List.map_inj_left] at h
  apply List.flatMap_congr
  intro m hm
  cases m with
  | background color =>
      have hcolor := h color (List.mem_filterMap.2 ⟨_, hm, rfl⟩)
      rw [Modifier.paint, Modifier.paint, hcolor]
  | border thickness color =>
      have hcolor := h color (List.mem_filterMap.2 ⟨_, hm, rfl⟩)
      rw [Modifier.paint, Modifier.paint, hcolor]
  | _ => rfl

/-- The calls for nodes that differ in modifiers for visibility only are the same if the nodes show
the same. -/
theorem Node.paint_congr {n n' : Node} (hbare : n'.withoutVisibility = n.withoutVisibility)
    (hcontent : (n'.appearance s').content = (n.appearance s).content)
    (hcolors : (n'.appearance s').colors = (n.appearance s).colors) :
    n'.paint s' bounds = n.paint s bounds := by
  obtain ⟨id, kind, modifiers, parent, children⟩ := n
  obtain ⟨id', kind', modifiers', parent', children'⟩ := n'
  obtain ⟨rfl, rfl, hmodifiers, rfl, rfl⟩ := Node.mk.inj hbare
  dsimp only [appearance] at hcontent hcolors
  have hpadding := Modifiers.padding_congr hmodifiers
  have hdecorations : modifiers'.flatMap (Modifier.paint s' bounds) =
      modifiers.flatMap (Modifier.paint s bounds) := by
    rw [← Modifiers.filterMap_withoutVisibility (fun _ => rfl) modifiers, ← hmodifiers,
      Modifiers.filterMap_withoutVisibility (fun _ => rfl)] at hcolors
    calc modifiers'.flatMap (Modifier.paint s' bounds)
        = modifiers'.flatMap (Modifier.paint s bounds) := Modifiers.flatMap_paint_congr hcolors
      _ = (Modifiers.withoutVisibility modifiers').flatMap (Modifier.paint s bounds) :=
          (Modifiers.flatMap_paint_withoutVisibility s bounds modifiers').symm
      _ = modifiers.flatMap (Modifier.paint s bounds) := by
          rw [hmodifiers, Modifiers.flatMap_paint_withoutVisibility]
  rw [Node.paint, Node.paint, Component.paint, Component.paint]
  dsimp only [Component.modifiers, Component.kind]
  rw [hdecorations, hpadding]
  cases kind' with
  | text content =>
      obtain ⟨htext, hcolor⟩ := Prod.mk.inj (Option.some.inj hcontent)
      dsimp only
      rw [TextContent.paint, TextContent.paint, htext, hcolor]
  | _ => rfl

namespace ComponentTree

variable {t : ComponentTree} {textMeasure : TextMeasure} {viewport : Size}

theorem paint_congr {l : Layout}
    (h : ∀ n ∈ t.nodes, n.appearance s' = n.appearance s) : t.paint s' l = t.paint s l := by
  rw [paint_eq, paint_eq]
  apply List.flatMap_congr
  intro i _
  unfold paintAt
  cases hnode : t.node? i with
  | none => rfl
  | some n =>
      have happearance := h n (List.mem_of_getElem? hnode)
      exact Node.paint_congr rfl (congrArg Appearance.content happearance)
        (congrArg Appearance.colors happearance)

theorem compute_congr (l : Layout) (h : ∀ n ∈ t.nodes, n.appearance s' = n.appearance s) :
    l.compute t ⟨s', textMeasure⟩ viewport = l.compute t ⟨s, textMeasure⟩ viewport := by
  have hvisibilities : (t.nodes.map fun n => Modifiers.resolvedVisibility s' n.modifiers) =
      t.nodes.map fun n => Modifiers.resolvedVisibility s n.modifiers :=
    List.map_congr_left fun n hn => congrArg Appearance.visibility (h n hn)
  have hflows : t.root.flows s' = t.root.flows s := by
    rw [Component.flows, Component.flows, ← Component.map_unlinked_flatten none 0, List.map_map,
      List.map_map]
    apply List.map_congr_left
    intro n hn
    have hflow : n.flow s' = n.flow s := by rw [Node.flow, Node.flow, h n hn]
    exact hflow
  unfold Layout.compute
  rw [bounds_congr rfl hflows]
  dsimp only
  rw [hvisibilities]

/-- Stores that agree on every variable which a component mentions lead to the same layout and are
painted alike. -/
theorem compute_paint_of_seesSame (t : ComponentTree) (s s' : Store) (textMeasure : TextMeasure)
    (viewport : Size) (h : ∀ n ∈ t.nodes, ∀ id ∈ n.reads, n.SeesSame s s' id) (l : Layout) :
    let after := l.compute t ⟨s, textMeasure⟩ viewport
    let after' := l.compute t ⟨s', textMeasure⟩ viewport
    after' = after ∧ t.paint s' after' = t.paint s after := by
  intro after after'
  have happearance : ∀ n ∈ t.nodes, n.appearance s' = n.appearance s :=
    fun n hn => Node.appearance_congr_of_seesSame (h n hn)
  have hafter : after' = after := compute_congr l happearance
  rw [hafter]
  exact ⟨rfl, paint_congr happearance⟩

/-- The visibility is missing in one store and a number with a fraction in the other, and what
should be a color is a number or a list. -/
theorem compute_paint_of_seesSame_column :
    let t : ComponentTree := ⟨.node ⟨1⟩ (.column ⟨.start, .center, .one⟩)
      [.visibility (.literal .gone), .visibility (.reference ⟨3⟩), .background ⟨2⟩]
      [.node ⟨2⟩ (.text (.regular ⟨1⟩ ⟨2⟩ .one)) [] []]⟩
    let s : Store :=
      ⟨[⟨⟨1⟩, .text "a", false⟩, ⟨⟨2⟩, .float .one, false⟩, ⟨⟨3⟩, .float .one, false⟩,
        ⟨⟨4⟩, .int 1, false⟩], [], 5⟩
    let s' : Store :=
      ⟨[⟨⟨1⟩, .text "a", true⟩, ⟨⟨2⟩, .list [⟨4⟩], false⟩, ⟨⟨4⟩, .int 2, false⟩], [], 5⟩
    (∀ n ∈ t.nodes, ∀ id ∈ n.reads, n.SeesSame s s' id) ∧
      ∀ textMeasure viewport (l : Layout),
        t.paint s' (l.compute t ⟨s', textMeasure⟩ viewport) =
          t.paint s (l.compute t ⟨s, textMeasure⟩ viewport) := by
  intro t s s'
  have hsees : ∀ n ∈ t.nodes, ∀ id ∈ n.reads, n.SeesSame s s' id := by
    intro n hn id hid
    have hlisted : ∀ n ∈ t.nodes, ∀ id ∈ n.reads, id = ⟨1⟩ ∨ id = ⟨2⟩ ∨ id = ⟨3⟩ := by decide
    rcases hlisted n hn id hid with rfl | rfl | rfl
    · exact .inl rfl
    · exact .inr fun reading _ => by cases reading <;> exact ⟨rfl, rfl⟩
    · exact .inr fun reading _ => by cases reading <;> exact ⟨rfl, rfl⟩
  exact ⟨hsees, fun textMeasure viewport l =>
    (compute_paint_of_seesSame t s s' textMeasure viewport hsees l).2⟩

end ComponentTree

end Panel
