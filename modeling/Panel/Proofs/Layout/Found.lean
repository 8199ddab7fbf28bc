import Panel.Proofs.Layout.Absent

/-!
# What a pass finds

A pass finds for every component whether it takes part, and its bounds if it does.  What the layout
says afterwards, but for what is left to do, follows from that and from the modifiers of the
component, whatever the layout was before.
-/

namespace Panel

/-- What a pass finds, by number: the nodes without their links, with the bounds of those that take
part. -/
def ComponentTree.found (t : ComponentTree) (ctx : MeasureContext) (viewport : Size) :
    List (Node × Option Bounds) :=
  t.root.unlinked.zip (t.bounds ctx viewport)

theorem Placement.phase_next (p : Placement) (visibility : Visibility) (bounds : Option Bounds) :
    (p.next visibility bounds).phase = .placed ↔ bounds.isSome = true := by
  cases bounds with
  | some bounds => exact iff_of_true rfl rfl
  | none =>
      refine iff_of_false (fun hphase => ?_) Bool.false_ne_true
      obtain ⟨_, _, phase, _⟩ := p
      cases phase <;> contradiction

namespace ComponentTree

variable {t : ComponentTree} {ctx : MeasureContext} {viewport : Size} {j : Nat} {n : Node}
  {bounds : Option Bounds}

theorem getElem?_unlinked (t : ComponentTree) (j : Nat) :
    t.root.unlinked[j]? = (t.node? j).map Node.unlinked := by
  rw [← Component.map_unlinked_flatten none 0, List.getElem?_map, node?, nodes]

theorem exists_node?_of_found (h : (t.found ctx viewport)[j]? = some (n, bounds)) :
    ∃ m, t.node? j = some m ∧ m.unlinked = n := by
  obtain ⟨hnode, -⟩ := List.getElem?_zip_eq_some.1 h
  rwa [getElem?_unlinked, Option.map_eq_some_iff] at hnode

theorem exists_found_of_node? (hproper : t.root.Proper) (h : t.node? j = some n) :
    ∃ bounds, (t.found ctx viewport)[j]? = some (n.unlinked, bounds) := by
  have hlt : j < (t.bounds ctx viewport).length := by
    rw [length_bounds hproper, ← length_nodes]
    exact (List.getElem?_eq_some_iff.1 h).1
  refine ⟨(t.bounds ctx viewport)[j], List.getElem?_zip_eq_some.2 ⟨?_, ?_⟩⟩
  · rw [getElem?_unlinked, h, Option.map_some]
  · exact List.getElem?_eq_getElem hlt

/-- Around a component that is gone, a pass finds what it finds in the tree without it. -/
theorem cut_found {t' : ComponentTree} {c : Component} {i : Nat}
    (h : Component.Pruned c i t.root t'.root) (hproper : t.root.Proper)
    (habsent : ctx.takesPart c = false) :
    Cut (c.unlinked.zip (List.replicate c.size none)) i (t.found ctx viewport)
      (t'.found ctx viewport) := by
  apply h.cut_unlinked.zip (cut_bounds h hproper habsent)
  rw [Component.length_unlinked, List.length_replicate]

end ComponentTree

namespace Layout

variable {t : ComponentTree} {ctx : MeasureContext} {viewport : Size} {j : Nat} {n : Node}
  {bounds : Option Bounds}

/-- The entry of a component after a pass, from the one before. -/
theorem getElem?_placements_compute (l : Layout) (j : Nat) :
    (l.compute t ctx viewport).placements[j]? =
      (if l.size = t.size then l else .fresh t.size).placements[j]?.bind fun p =>
        (t.node? j).bind fun n => (t.bounds ctx viewport)[j]?.map fun bounds =>
          p.next (Modifiers.resolvedVisibility ctx.store n.modifiers) bounds := by
  dsimp only [compute]
  rw [List.getElem?_zipWith, List.zip, List.getElem?_zipWith, List.getElem?_map,
    ComponentTree.node?]
  cases (if l.size = t.size then l else .fresh t.size).placements[j]? <;>
    cases t.nodes[j]? <;> cases (t.bounds ctx viewport)[j]? <;> rfl

theorem exists_placements_compute (l : Layout)
    (h : (t.found ctx viewport)[j]? = some (n, bounds)) :
    ∃ p : Placement, (l.compute t ctx viewport).placements[j]? =
      some (p.next (Modifiers.resolvedVisibility ctx.store n.modifiers) bounds) := by
  obtain ⟨m, hnode, rfl⟩ := ComponentTree.exists_node?_of_found h
  obtain ⟨-, hbounds⟩ := List.getElem?_zip_eq_some.1 h
  have hlt : j < (if l.size = t.size then l else .fresh t.size).placements.length := by
    have hbefore : (if l.size = t.size then l else .fresh t.size).placements.length = t.size :=
      l.size_before t.size
    rw [hbefore, ← ComponentTree.length_nodes]
    exact (List.getElem?_eq_some_iff.1 hnode).1
  refine ⟨(if l.size = t.size then l else .fresh t.size).placements[j], ?_⟩
  rw [getElem?_placements_compute, List.getElem?_eq_getElem hlt, hnode, hbounds]
  rfl

/-- What the layout says after a pass. -/
theorem compute_found (l : Layout) (h : (t.found ctx viewport)[j]? = some (n, bounds)) :
    (l.compute t ctx viewport).isPlaced j = bounds.isSome ∧
      (l.compute t ctx viewport).isShown j =
        (bounds.isSome && (Modifiers.resolvedVisibility ctx.store n.modifiers).isDrawn) ∧
      ∀ b, bounds = some b → (l.compute t ctx viewport).bounds j = b := by
  obtain ⟨p, hp⟩ := l.exists_placements_compute h
  have hplaced : (l.compute t ctx viewport).isPlaced j = bounds.isSome := by
    rw [isPlaced, phase, hp, Bool.eq_iff_iff, decide_eq_true_iff]
    exact p.phase_next _ bounds
  refine ⟨hplaced, ?_, ?_⟩
  · rw [isShown, hplaced, visibility, hp]
    cases bounds <;> rfl
  · rintro b rfl
    rw [Layout.bounds, hp]
    rfl

end Layout

end Panel
