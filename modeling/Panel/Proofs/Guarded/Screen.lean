import Panel.Guarded.Screen
import Panel.Proofs.Guarded.Layout
import Panel.Proofs.Paint.Drawn
import Panel.Touch.Dispatch

/-!
# The screen of a tree

On the screen of a tree and its layout, what is found by links and by look-ups in arrays is what the
tree and the layout say.  Painting it always has an answer.
-/

namespace Panel

namespace Layout

variable (l : Layout)

theorem lengths_arrays : l.arrays.lengths = List.replicate 7 l.size := by
  obtain ⟨hx, hy, hwidth, hheight, hvisibility, hphase, hdirty⟩ := l.length_arrays
  rw [LayoutArrays.lengths, hx, hy, hwidth, hheight, hvisibility, hphase, hdirty]
  rfl

theorem boundsAt_arrays : l.arrays.boundsAt = l.bounds := by
  funext i
  rw [LayoutArrays.boundsAt, LayoutArrays.sizeAt, bounds]
  dsimp only [arrays]
  rw [List.getElem?_map, List.getElem?_map, List.getElem?_map, List.getElem?_map]
  cases l.placements[i]? <;> rfl

theorem visibilityAt_arrays (i : Nat) : l.arrays.visibilityAt i = l.visibility i := by
  rw [LayoutArrays.visibilityAt, arrays, List.getElem?_map, visibility]

theorem isShownAt_arrays : l.arrays.isShownAt = l.isShown := by
  funext i
  rw [LayoutArrays.isShownAt, phaseAt_arrays, visibilityAt_arrays, isShown, isPlaced]

theorem anyDirty_arrays : l.arrays.anyDirty = l.anyDirty := by
  rw [Bool.eq_iff_iff, LayoutArrays.anyDirty, anyDirty, List.any_eq_true, List.any_eq_true]
  dsimp only [arrays]
  rw [List.length_map]
  constructor
  · rintro ⟨i, hi, hdirty⟩
    have hlt := List.mem_range.1 hi
    rw [List.getElem?_map, List.getElem?_eq_getElem hlt] at hdirty
    exact ⟨_, List.getElem_mem hlt, hdirty⟩
  · rintro ⟨p, hp, hdirty⟩
    obtain ⟨i, hi⟩ := List.mem_iff_getElem?.1 hp
    obtain ⟨hlt, -⟩ := List.getElem?_eq_some_iff.1 hi
    refine ⟨i, List.mem_range.2 hlt, ?_⟩
    rw [List.getElem?_map, hi]
    exact hdirty

/-- Asking for more touches only one array. -/
theorem mark_arrays (index : Nat) (flags : DirtyFlags) :
    l.arrays.mark index flags = (l.mark index flags).arrays := by
  have hkept {α : Type} {f : Placement → α}
      (hf : ∀ p : Placement, f { p with dirty := p.dirty.union flags } = f p) :
      (l.mark index flags).placements.map f = l.placements.map f := map_modify hf _ _
  have hdirty : (l.placements.map (·.dirty)).modify index (·.union flags) =
      (l.mark index flags).placements.map (·.dirty) := by
    apply List.ext_getElem?
    intro i
    rw [List.getElem?_modify, List.getElem?_map, List.getElem?_map, mark, List.getElem?_modify]
    cases l.placements[i]? with
    | none => rfl
    | some p => split <;> rfl
  rw [LayoutArrays.mark]
  dsimp only [arrays]
  rw [hdirty, hkept (f := (·.bounds.origin.x)) fun _ => rfl,
    hkept (f := (·.bounds.origin.y)) fun _ => rfl, hkept (f := (·.bounds.size.width)) fun _ => rfl,
    hkept (f := (·.bounds.size.height)) fun _ => rfl, hkept (f := (·.visibility)) fun _ => rfl,
    hkept (f := (·.phase)) fun _ => rfl]

theorem markAll_arrays (indices : List Nat) (flags : DirtyFlags) :
    l.arrays.markAll indices flags = (l.markAll indices flags).arrays := by
  induction indices generalizing l with
  | nil => rfl
  | cons index indices ih =>
      rw [LayoutArrays.markAll, List.foldl_cons, mark_arrays]
      exact ih (l.mark index flags)

theorem clearDirty_arrays : l.arrays.clearDirty = l.clearDirty.arrays := by
  simp only [LayoutArrays.clearDirty, clearDirty, arrays, List.map_map]
  rfl

end Layout

/-! ## Calls for drawing -/

namespace IndexedStore.Located

variable {store : IndexedStore}

theorem paintModifier?_eq (h : store.Located) (bounds : Bounds) (m : Modifier) :
    m.paint? store bounds = some (m.paint store.toStore bounds) := by
  cases m with
  | background color =>
      rw [Modifier.paint?, h.resolveColor?_eq]
      rfl
  | border thickness color =>
      rw [Modifier.paint?, h.resolveColor?_eq]
      rfl
  | _ => rfl

theorem paintText?_eq (h : store.Located) (content : TextContent) (origin : Point) :
    content.paint? store origin = some (content.paint store.toStore origin) := by
  rw [TextContent.paint?, h.resolveText?_eq, h.resolveColor?_eq]
  rfl

theorem paintNode?_eq (h : store.Located) (bounds : Bounds) (id : ComponentId)
    (kind : ComponentKind) (modifiers : Modifiers) (parent : Option Nat) (links : List Nat)
    (children : List Component) :
    (Node.mk id kind modifiers parent links).paint? store bounds =
      some ((Component.node id kind modifiers children).paint store.toStore bounds) := by
  have hdecoration : Modifier.paint? store bounds = fun m =>
      pure (m.paint store.toStore bounds) := funext (h.paintModifier?_eq bounds)
  rw [Node.paint?, hdecoration, List.mapM_pure]
  cases kind with
  | text content =>
      dsimp only [Option.bind_eq_bind, Option.bind_some, Option.pure_def]
      rw [h.paintText?_eq]
      rfl
  | _ => rfl

end IndexedStore.Located

namespace Screen

open Component (At Each numbering)

variable (t : ComponentTree) (l : Layout)

/-! ## Links and hits -/

theorem subtree_screen (i : Nat) : (t.screen l).subtree i = t.subtree i := by
  rw [subtree, ComponentTree.screen, ComponentTree.length_nodes, ComponentTree.subtree]

theorem ancestors_screen (i : Nat) : (t.screen l).ancestors i = t.ancestors i := by
  rw [ancestors, ComponentTree.screen, ComponentTree.length_nodes, ComponentTree.ancestors,
    ComponentTree.node?]

theorem invalidate_screen (components : List Nat) :
    (t.screen l).invalidate components = t.screen (l.invalidate t components) := by
  have htouched (a : Layout) : components.foldl (fun a i =>
      (a.markAll ((t.screen l).subtree i) .all).markAll ((t.screen l).ancestors i) .all) a.arrays =
        (components.foldl (fun a i =>
          (a.markAll (t.subtree i) .all).markAll (t.ancestors i) .all) a).arrays := by
    induction components generalizing a with
    | nil => rfl
    | cons i components ih =>
        rw [List.foldl_cons, List.foldl_cons, subtree_screen, ancestors_screen,
          Layout.markAll_arrays, Layout.markAll_arrays]
        exact ih _
  exact congrArg (Screen.mk t.nodes)
    ((congrArg (·.mark 0 .paintOnly) (htouched l)).trans (Layout.mark_arrays _ 0 .paintOnly))

theorem isDrawn_screen (i : Nat) : (t.screen l).isDrawn i = t.isDrawn l i := by
  rw [isDrawn, ancestors_screen, ComponentTree.isDrawn, ← Layout.isShownAt_arrays]
  rfl

theorem hit?_screen (p : Point) : (t.screen l).hit? p = t.hit? l p := by
  have hlength : (t.screen l).nodes.length = t.size := t.length_nodes
  have hbounds : (t.screen l).layout.boundsAt = l.bounds := l.boundsAt_arrays
  simp only [hit?, hlength, hbounds, isDrawn_screen, ComponentTree.hit?]

theorem actionsFor_screen (i : Nat) (trigger : TouchTrigger) :
    (t.screen l).actionsFor i trigger = t.actionsFor i trigger := by
  rw [actionsFor, ComponentTree.actionsFor, ComponentTree.node?]
  cases hnode : t.nodes[i]? with
  | none => simp only [ComponentTree.screen, hnode, Option.map_none, Option.getD_none]
  | some n => simp only [ComponentTree.screen, hnode, Option.map_some, Option.getD_some]

theorem handler?_screen (i : Nat) (trigger : TouchTrigger) :
    (t.screen l).handler? i trigger = t.handler? i trigger := by
  simp only [handler?, ancestors_screen, actionsFor_screen, ComponentTree.handler?]

/-! ## Painting -/

variable {t l} {store : IndexedStore} {above : List Nat} {i : Nat} {c : Component}

/-- The calls for consecutive trees are those for one after the other. -/
theorem exists_mapM_paint {paint : Nat → Option (List (List PaintCall))}
    {f : Nat × Component → List PaintCall} {index : Nat} {cs : List Component}
    (hcs : Each (fun j c => paint j = some ((l.shown j c).map f)) index cs) :
    ∃ parts, (numbering index cs).mapM paint = some parts ∧
      parts.flatten = (l.shownAll index cs).map f := by
  induction cs generalizing index with
  | nil => exact ⟨[], rfl, rfl⟩
  | cons c cs ih =>
      obtain ⟨hfirst, hrest⟩ := hcs
      obtain ⟨parts, hparts, hflatten⟩ := ih hrest
      refine ⟨(l.shown index c).map f :: parts, ?_, ?_⟩
      · rw [numbering, List.mapM_cons, hfirst, hparts]
        rfl
      · rw [List.flatten_cons, hflatten, Layout.shownAll, List.map_append]

/-- A component is painted where the tree has it, with all that is nested in it. -/
theorem paintFrom?_screen (h : store.Located) {depth : Nat} (hat : At t.root above i c)
    (hdepth : c.size ≤ depth) :
    (t.screen l).paintFrom? store depth i =
      some ((l.shown i c).map fun entry => entry.2.paint store.toStore (l.bounds entry.1)) := by
  induction depth generalizing above i c with
  | zero => exact absurd c.size_pos (Nat.not_lt.2 hdepth)
  | succ depth ih =>
      obtain ⟨id, kind, modifiers, children⟩ := c
      have hnode : (t.screen l).nodes[i]? =
          some ⟨id, kind, modifiers, above.head?, numbering (i + 1) children⟩ :=
        hat.getElem?_flatten
      have hshown : (t.screen l).layout.isShownAt = l.isShown := l.isShownAt_arrays
      have hbounds : (t.screen l).layout.boundsAt = l.bounds := l.boundsAt_arrays
      have hchildren : Each (fun j d => (t.screen l).paintFrom? store depth j =
          some ((l.shown j d).map fun entry =>
            entry.2.paint store.toStore (l.bounds entry.1))) (i + 1) children := by
        refine (hat.each_child [] hdepth).imp fun j d hd => ?_
        obtain ⟨above', hd, hsize⟩ := hd
        exact ih hd hsize
      obtain ⟨parts, hparts, hflatten⟩ := exists_mapM_paint hchildren
      rw [paintFrom?, hnode, Layout.shown]
      dsimp only
      rw [hshown, hbounds]
      by_cases hi : l.isShown i = true
      · rw [if_pos hi, if_pos hi, h.paintNode?_eq _ id kind modifiers _ _ children]
        dsimp only [Option.bind_eq_bind, Option.bind_some]
        rw [hparts, List.map_cons, ← hflatten]
        rfl
      · rw [if_neg hi, if_neg hi]
        rfl

/-- Painting a screen makes the calls for its tree. -/
theorem paint?_screen (h : store.Located) :
    (t.screen l).paint? store = some (t.paint store.toStore l, t.paintedCount l) := by
  have hdepth : t.root.size ≤ (t.screen l).nodes.length + 1 :=
    Nat.le_succ_of_le (Nat.le_of_eq t.length_nodes.symm)
  rw [paint?, paintFrom?_screen h .root hdepth, ComponentTree.paint, List.flatMap,
    ComponentTree.paintedCount]
  exact congrArg (fun count => some (_, count)) (List.length_map _)

/-- The walk that makes the calls and counts the components comes to those that are drawn, in the
order of their numbers.  A point belongs to the last of those that contain it. -/
theorem paint?_and_hit?_screen (h : store.Located) :
    (t.screen l).paint? store =
        some ((t.drawn l).flatMap (t.paintAt store.toStore l), (t.drawn l).length) ∧
      ∀ p, (t.screen l).hit? p =
        ((t.drawn l).filter fun i => (l.bounds i).contains p).getLast? := by
  constructor
  · rw [paint?_screen h, ComponentTree.paint_eq, ComponentTree.paintedCount_eq]
  · intro p
    rw [hit?_screen, ComponentTree.hit?_eq]

end Screen

end Panel
