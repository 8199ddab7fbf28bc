import Panel.Paint
import Panel.Proofs.Component.Consistent
import Panel.Touch.Hit

/-!
# What is painted and what is hit

Painting walks down the tree and leaves out what does not show, with everything below it.  Hit
testing looks at the components from the last to the first, and at everything above each of them.
Both come to the same components, because a component and all that is below it have consecutive
numbers.
-/

namespace Panel

/-- The calls for a node by itself. -/
def Node.paint (store : Store) (bounds : Bounds) (n : Node) : List PaintCall :=
  (Component.node n.id n.kind n.modifiers []).paint store bounds

namespace ComponentTree

/-- The numbers of the components that are drawn, in ascending order. -/
def drawn (t : ComponentTree) (l : Layout) : List Nat := (List.range t.size).filter (t.isDrawn l)

/-- The calls for the component with a number. -/
def paintAt (t : ComponentTree) (store : Store) (l : Layout) (index : Nat) : List PaintCall :=
  match t.node? index with
  | some n => n.paint store (l.bounds index)
  | none => []

end ComponentTree

namespace Component

open ComponentTree

variable {t : ComponentTree} {l : Layout} {above : List Nat} {i : Nat} {c : Component}

theorem At.isDrawn_eq (h : At t.root above i c) :
    t.isDrawn l i = (l.isShown i && above.all l.isShown) := by
  rw [isDrawn, ancestors_eq h]

/-- Nothing is drawn within a component that does not show. -/
theorem At.filter_isDrawn_eq_nil (h : At t.root above i c) (hshown : l.isShown i = false) :
    (List.range' i c.size).filter (t.isDrawn l) = [] := by
  rw [List.filter_eq_nil_iff]
  intro j hj
  obtain ⟨hle, hlt⟩ := List.mem_range'_1.1 hj
  obtain ⟨outer, d, hd, hpath⟩ := At.exists_within c h hle hlt
  have hmem : i ∈ j :: outer := hpath.subset List.mem_cons_self
  have hline : t.isDrawn l j = (j :: outer).all l.isShown := by
    rw [hd.isDrawn_eq, List.all_cons]
  rw [hline, List.all_eq_true]
  intro hall
  rw [hall i hmem] at hshown
  contradiction

mutual

/-- The walk that paints comes to the components that are drawn, in the order of their numbers. -/
theorem At.flatMap_shown {α : Type} {f : Nat → Component → List α} {g : Nat → List α}
    (hfg : ∀ above i c, At t.root above i c → f i c = g i) :
    (c : Component) → {above : List Nat} → {i : Nat} → At t.root above i c →
      above.all l.isShown = true →
      (l.shown i c).flatMap (fun entry => f entry.1 entry.2) =
        ((List.range' i c.size).filter (t.isDrawn l)).flatMap g
  | node id kind modifiers children, above, i, h, habove => by
      rw [Layout.shown]
      cases hshown : l.isShown i with
      | false =>
          rw [h.filter_isDrawn_eq_nil hshown]
          rfl
      | true =>
          have hline : (i :: above).all l.isShown = true := by
            rw [List.all_cons, hshown, habove, Bool.and_true]
          have hdrawn : t.isDrawn l i = true := by rw [h.isDrawn_eq, hshown, habove, Bool.and_true]
          have hchildren := At.flatMap_shownAll hfg [] children h hline
          rw [if_pos rfl, List.flatMap_cons, size, Nat.add_comm 1, List.range'_succ,
            List.filter_cons_of_pos hdrawn, List.flatMap_cons, hfg above i _ h]
          exact congrArg (g i ++ ·) hchildren

theorem At.flatMap_shownAll {α : Type} {f : Nat → Component → List α} {g : Nat → List α}
    (hfg : ∀ above i c, At t.root above i c → f i c = g i) {above : List Nat} {i : Nat}
    {id : ComponentId} {kind : ComponentKind} {modifiers : Modifiers} (front : List Component) :
    (cs : List Component) → At t.root above i (node id kind modifiers (front ++ cs)) →
      (i :: above).all l.isShown = true →
      (l.shownAll (i + 1 + sizeAll front) cs).flatMap (fun entry => f entry.1 entry.2) =
        ((List.range' (i + 1 + sizeAll front) (sizeAll cs)).filter (t.isDrawn l)).flatMap g
  | [], _, _ => rfl
  | c :: rest, h, hline => by
      have hsize : i + 1 + sizeAll (front ++ [c]) = i + 1 + sizeAll front + c.size := by
        rw [sizeAll_concat, ← Nat.add_assoc]
      have hfirst := At.flatMap_shown hfg c (.child h) hline
      have hrest := At.flatMap_shownAll hfg (front ++ [c]) rest (by
        rwa [List.append_assoc, List.singleton_append]) hline
      rw [hsize] at hrest
      rw [Layout.shownAll, List.flatMap_append, hfirst, hrest, sizeAll, ← List.range'_append_1,
        List.filter_append, List.flatMap_append]

end

end Component

namespace ComponentTree

open Component

variable {t : ComponentTree} {l : Layout} {i : Nat} {n : Node}

theorem isDrawn_iff : t.isDrawn l i = true ↔ ∀ j ∈ i :: t.ancestors i, l.isShown j = true := by
  rw [isDrawn, ← List.all_cons (f := l.isShown), List.all_eq_true]

theorem flatMap_shown {α : Type} {f : Nat → Component → List α} {g : Nat → List α}
    (hfg : ∀ above i c, At t.root above i c → f i c = g i) :
    (l.shown 0 t.root).flatMap (fun entry => f entry.1 entry.2) = (t.drawn l).flatMap g := by
  rw [At.flatMap_shown hfg t.root .root rfl, drawn, List.range_eq_range', size]

theorem paint_eq (t : ComponentTree) (store : Store) (l : Layout) :
    t.paint store l = (t.drawn l).flatMap (t.paintAt store l) := by
  apply flatMap_shown (f := fun index c => c.paint store (l.bounds index))
  intro above i c h
  obtain ⟨id, kind, modifiers, children⟩ := c
  rw [paintAt, node?, nodes, h.getElem?_flatten]
  rfl

theorem paintedCount_eq (t : ComponentTree) (l : Layout) :
    t.paintedCount l = (t.drawn l).length := by
  have hsingle := flatMap_shown (t := t) (l := l) (f := fun _ _ => [()]) (g := fun _ => [()])
    fun _ _ _ _ => rfl
  simpa [paintedCount, List.length_flatMap] using congrArg List.length hsingle

theorem hit?_eq (t : ComponentTree) (l : Layout) (p : Point) :
    t.hit? l p = ((t.drawn l).filter fun i => (l.bounds i).contains p).getLast? := by
  rw [hit?, ← List.head?_filter, List.filter_reverse, List.head?_reverse, drawn, List.filter_filter]

/-! ## The order of numbers -/

/-- Everything below a component comes before everything below its next siblings. -/
theorem pairwise_children (hnode : t.node? i = some n) :
    n.children.Pairwise fun c d => ∀ j ∈ t.subtree c, ∀ k ∈ t.subtree d, j < k := by
  obtain ⟨above, children, h, -, hchildren⟩ := exists_at_of_node? hnode
  rw [hchildren]
  -- by induction on the later children, those before them in `front`
  suffices ∀ front cs, front ++ cs = children →
      (numbering (i + 1 + sizeAll front) cs).Pairwise fun c d =>
        ∀ j ∈ t.subtree c, ∀ k ∈ t.subtree d, j < k from this [] children rfl
  intro front cs hsplit
  induction cs generalizing front with
  | nil => exact .nil
  | cons c rest ih =>
      subst hsplit
      have hrest := ih (front ++ [c]) (List.append_cons front c rest).symm
      rw [sizeAll_concat, ← Nat.add_assoc] at hrest
      refine List.pairwise_cons.2 ⟨fun d hd j hj k hk => ?_, hrest⟩
      obtain ⟨between, e, back, rfl, rfl⟩ := mem_numbering.1 hd
      have hc := At.child h
      rw [List.append_cons, ← List.append_assoc] at h
      have he := At.child h
      rw [sizeAll_append, sizeAll_concat, ← Nat.add_assoc, ← Nat.add_assoc] at he
      rw [subtree_eq hc, List.mem_range'_1] at hj
      rw [subtree_eq he, List.mem_range'_1] at hk
      omega

/-- Exactly the drawn components are painted, by ascending numbers, which is a component before all
that is below it and that before the next sibling.  A point belongs to the component that is painted
last among those that contain it. -/
theorem paint_hit_agree (t : ComponentTree) (store : Store) (l : Layout) :
    t.paint store l = (t.drawn l).flatMap (t.paintAt store l) ∧
      t.paintedCount l = (t.drawn l).length ∧
      (t.drawn l).Pairwise (· < ·) ∧
      (∀ i n, t.node? i = some n → (∀ j ∈ t.subtree i, i ≤ j) ∧
        n.children.Pairwise fun c d => ∀ j ∈ t.subtree c, ∀ k ∈ t.subtree d, j < k) ∧
      ∀ p, t.hit? l p = ((t.drawn l).filter fun i => (l.bounds i).contains p).getLast? ∧
        (t.hit? l p = none ↔ ∀ i ∈ t.drawn l, (l.bounds i).contains p = false) := by
  refine ⟨paint_eq t store l, paintedCount_eq t l, List.pairwise_lt_range.filter _,
    fun i n hnode => ⟨fun j hj => ?_, pairwise_children hnode⟩, fun p => ⟨hit?_eq t l p, ?_⟩⟩
  · obtain ⟨above, children, h, -⟩ := exists_at_of_node? hnode
    rw [subtree_eq h] at hj
    exact (List.mem_range'_1.1 hj).1
  · simp [hit?_eq]

end ComponentTree

end Panel
