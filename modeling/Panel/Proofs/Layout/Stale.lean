import Panel.Proofs.Layout.Found
import Panel.Proofs.Paint.Drawn

/-!
# What is left of earlier passes

A component that a pass leaves out keeps the bounds of the last pass that placed it.  Nobody looks
at them: passes over different layouts lead to layouts which place the same components at the same
places, and of which painting and hit testing make the same.
-/

namespace Panel

namespace Layout

variable {l l' : Layout}

/-- Two layouts place the same components at the same places, and what shows of one shows of the
other. -/
structure SamePlaces (l l' : Layout) : Prop where
  isPlaced : ∀ i, l'.isPlaced i = l.isPlaced i
  visibility : ∀ i, l'.visibility i = l.visibility i
  bounds : ∀ i, l.isPlaced i = true → l'.bounds i = l.bounds i

theorem SamePlaces.isShown (h : SamePlaces l l') (i : Nat) : l'.isShown i = l.isShown i := by
  rw [Layout.isShown, Layout.isShown, h.isPlaced, h.visibility]

/-! ## Passes -/

theorem samePlaces_clearDirty (l : Layout) : SamePlaces l l.clearDirty := by
  have hplacement (i : Nat) : l.clearDirty.placements[i]? =
      l.placements[i]?.map fun p => { p with dirty := .none } := List.getElem?_map
  constructor
  · intro i
    rw [Layout.isPlaced, Layout.isPlaced, phase, phase, hplacement]
    cases l.placements[i]? <;> rfl
  · intro i
    rw [visibility, visibility, hplacement]
    cases l.placements[i]? <;> rfl
  · intro i _
    rw [bounds, bounds, hplacement]
    cases l.placements[i]? <;> rfl

theorem samePlaces_compute {t : ComponentTree} {ctx : MeasureContext} {viewport : Size}
    (hproper : t.root.Proper) (l l' : Layout) :
    SamePlaces (l.compute t ctx viewport) (l'.compute t ctx viewport) := by
  have hentry (i : Nat) :
      (l'.compute t ctx viewport).isPlaced i = (l.compute t ctx viewport).isPlaced i ∧
      (l'.compute t ctx viewport).visibility i = (l.compute t ctx viewport).visibility i ∧
      ((l.compute t ctx viewport).isPlaced i = true →
        (l'.compute t ctx viewport).bounds i = (l.compute t ctx viewport).bounds i) := by
    cases hnode : t.node? i with
    | some n =>
        obtain ⟨found, hfound⟩ : ∃ found, (t.found ctx viewport)[i]? = some (_, found) :=
          ComponentTree.exists_found_of_node? hproper hnode
        obtain ⟨p, hp⟩ := l.exists_placements_compute hfound
        obtain ⟨p', hp'⟩ := l'.exists_placements_compute hfound
        obtain ⟨hplaced, -, hbounds⟩ := l.compute_found hfound
        obtain ⟨hplaced', -, hbounds'⟩ := l'.compute_found hfound
        refine ⟨hplaced'.trans hplaced.symm, ?_, fun htrue => ?_⟩
        · rw [visibility, visibility, hp, hp']
          cases found <;> rfl
        · obtain ⟨b, rfl⟩ := Option.isSome_iff_exists.1 (hplaced.symm.trans htrue)
          rw [hbounds b rfl, hbounds' b rfl]
    | none =>
        -- there is no such component, and no entry for it in either layout
        have hpast : t.size ≤ i := by
          rw [← ComponentTree.length_nodes]
          exact List.getElem?_eq_none_iff.1 hnode
        have hnone (l : Layout) : (l.compute t ctx viewport).placements[i]? = none := by
          rw [List.getElem?_eq_none_iff]
          exact Nat.le_trans (Nat.le_of_eq (size_compute hproper)) hpast
        simp [isPlaced, phase, visibility, bounds, hnone]
  exact ⟨fun i => (hentry i).1, fun i => (hentry i).2.1, fun i => (hentry i).2.2⟩

theorem SamePlaces.clearDirty (h : SamePlaces l l') : SamePlaces l.clearDirty l'.clearDirty := by
  have hl := samePlaces_clearDirty l
  have hl' := samePlaces_clearDirty l'
  constructor
  · intro i
    rw [hl'.isPlaced, hl.isPlaced, h.isPlaced]
  · intro i
    rw [hl'.visibility, hl.visibility, h.visibility]
  · intro i hplaced
    rw [hl.isPlaced] at hplaced
    have hplaced' : l'.isPlaced i = true := (h.isPlaced i).trans hplaced
    rw [hl'.bounds i hplaced', hl.bounds i hplaced, h.bounds i hplaced]

end Layout

/-! ## Painting and hit testing -/

namespace ComponentTree

variable {l l' : Layout}

theorem isPlaced_of_mem_drawn {t : ComponentTree} {i : Nat} (h : i ∈ t.drawn l) :
    l.isPlaced i = true := by
  have hdrawn := (List.mem_filter.1 h).2
  rw [isDrawn, Layout.isShown, Bool.and_eq_true, Bool.and_eq_true] at hdrawn
  exact hdrawn.1.1

theorem drawn_eq (t : ComponentTree) (h : l.SamePlaces l') : t.drawn l' = t.drawn l := by
  have hshown : l'.isShown = l.isShown := funext h.isShown
  have hdrawn : t.isDrawn l' = t.isDrawn l := by
    funext i
    rw [isDrawn, isDrawn, hshown]
  rw [drawn, drawn, hdrawn]

theorem paint_samePlaces (t : ComponentTree) (store : Store) (h : l.SamePlaces l') :
    t.paint store l' = t.paint store l := by
  rw [paint_eq, paint_eq, t.drawn_eq h]
  apply List.flatMap_congr
  intro i hi
  rw [paintAt, paintAt, h.bounds i (isPlaced_of_mem_drawn hi)]

theorem hit?_samePlaces (t : ComponentTree) (h : l.SamePlaces l') (p : Point) :
    t.hit? l' p = t.hit? l p := by
  rw [hit?_eq, hit?_eq, t.drawn_eq h]
  congr 1
  apply List.filter_congr
  intro i hi
  rw [h.bounds i (isPlaced_of_mem_drawn hi)]

end ComponentTree

end Panel
