import Panel.Proofs.Component.Consistent
import Panel.Proofs.Dependency.Appearance
import Panel.Proofs.Document.Call

/-!
# What a touch invalidates

A touch on a document that has just been updated asks for every component that it makes look
different to be laid out and painted again, together with all that is below it and all that is
above it.
-/

namespace Panel

theorem ComponentTree.mem_subtree_self {t : ComponentTree} {i : Nat} {n : Node}
    (hnode : t.node? i = some n) : i ∈ t.subtree i := by
  obtain ⟨above, children, h, -⟩ := exists_at_of_node? hnode
  rw [subtree_eq h, List.mem_range'_1]
  have hpos := Component.size_pos (.node n.id n.kind n.modifiers children)
  omega

theorem ComponentTree.lt_size_of_mem {t : ComponentTree} {i j : Nat} {n : Node}
    (hnode : t.node? i = some n) (hj : j ∈ t.subtree i ++ t.ancestors i) : j < t.size := by
  obtain ⟨above, children, h, -⟩ := exists_at_of_node? hnode
  have hle := h.add_size_le
  rw [subtree_eq h, ancestors_eq h] at hj
  rcases List.mem_append.1 hj with hj | hj
  · rw [List.mem_range'_1] at hj
    rw [size]
    omega
  · obtain ⟨outer, c, hc, hlt, -⟩ := h.exists_of_mem_above j hj
    have hsize := c.size_pos
    have hbound := hc.add_size_le
    rw [size]
    omega

namespace Scene

variable {s : Scene} {component : ComponentId} {event : TouchEvent} {actions : List ActionId}

/-- The record of a touch that is delivered. -/
def record (s : Scene) (component : ComponentId) (event : TouchEvent) (actions : List ActionId) :
    Invalidation :=
  let mutated := (s.content.runActions component event actions).mutated
  ⟨s.dispatcher.sequence + 1, component, event.trigger, mutated,
    s.dispatcher.dependencies.affectedBy mutated⟩

theorem pending_deliver :
    (s.deliver component event actions).dispatcher.pending =
      s.dispatcher.pending ++ [s.record component event actions] := rfl

theorem layout_deliver :
    (s.deliver component event actions).layout =
      s.layout.invalidate s.content.tree (s.record component event actions).affected := rfl

theorem store_deliver :
    (s.deliver component event actions).content.store =
      (s.content.runActions component event actions).store := rfl

/-- What a delivered touch makes look different is on its record. -/
theorem mem_affected_of_appearance_ne {i : Nat} {n : Node}
    (hdeclares : s.content.store.Declares s.content.derived)
    (hordered : s.content.store.Ordered s.content.derived)
    (hsettled : s.content.store.Settled s.content.derived)
    (hdependencies : s.dispatcher.dependencies = .of s.content)
    (hnode : s.content.tree.node? i = some n)
    (hne : n.appearance (s.deliver component event actions).content.store ≠
      n.appearance s.content.store) :
    i ∈ (s.record component event actions).affected := by
  rw [record, hdependencies]
  rw [store_deliver] at hne
  apply DependencyIndex.mem_affectedBy_of_appearance_ne hordered hsettled _ _ hnode hne
  · exact Content.settled_runActions hdeclares hordered actions
  · intro id hderived hmutated
    exact Content.get_runActions hdeclares hderived hmutated

/-- What is on the record is done again, with everything below and everything above. -/
theorem dirty_deliver {i j : Nat} {n : Node} (hsize : s.layout.size = s.content.tree.size)
    (hnode : s.content.tree.node? i = some n)
    (hi : i ∈ (s.record component event actions).affected)
    (hj : j ∈ s.content.tree.subtree i ++ s.content.tree.ancestors i) :
    (s.deliver component event actions).layout.dirty j = .all := by
  rw [layout_deliver]
  apply Layout.dirty_invalidate_of_mem
  · rw [hsize]
    exact ComponentTree.lt_size_of_mem hnode hj
  · exact List.mem_flatMap.2 ⟨i, hi, hj⟩

end Scene

namespace Document

/-- A delivered touch leaves one record.  Every component that looks different is on it, and it and
all below and above it are to be laid out and painted again. -/
theorem touch_after_update {bytes : List UInt8} {config : Config} {loaded after : Document}
    (h : load bytes config = .ok loaded) (calls : List HostCall) (viewport : Size)
    (textMeasure : TextMeasure) (component : ComponentId) (event : TouchEvent) :
    let before := ((loaded.run calls).update viewport textMeasure).2
    let tree := before.scene.content.tree
    before.scene.content.store.Ordered before.scene.content.derived →
    before.touch component event = (true, after) →
    ∃ record, after.scene.dispatcher.pending = before.scene.dispatcher.pending ++ [record] ∧
      ∀ i n, tree.node? i = some n →
        n.appearance after.scene.content.store ≠ n.appearance before.scene.content.store →
        i ∈ record.affected ∧
          ∀ j ∈ i :: tree.subtree i ++ tree.ancestors i, after.scene.layout.dirty j = .all := by
  intro before tree hordered htouch
  have hloaded := pristine_of_load h
  have hd : Follows loaded (loaded.run calls) := hloaded.follows.run hloaded calls
  have hbefore : Follows loaded before := hd.update hloaded viewport textMeasure
  have hsettled : before.scene.content.store.Settled before.scene.content.derived := by
    have hdeclares := hd.declares hloaded
    exact Store.settled_refreshed hdeclares ((Store.ordered_refreshed hdeclares).1 hordered)
  obtain ⟨index, m, -, -, rfl⟩ := exists_deliver_of_touch htouch
  refine ⟨_, Scene.pending_deliver, fun i n hnode hne => ?_⟩
  have haffected := Scene.mem_affected_of_appearance_ne (hbefore.declares hloaded) hordered
    hsettled hbefore.dependencies hnode hne
  refine ⟨haffected, fun j hj => Scene.dirty_deliver hbefore.size hnode haffected ?_⟩
  rcases List.mem_cons.1 hj with rfl | hj
  · exact List.mem_append_left _ (ComponentTree.mem_subtree_self hnode)
  · exact hj

theorem touch_after_update_counter :
    let bytes : List UInt8 := [0, 3, 0, 3, 0, 0, 0, 87, 1, 0, 0, 0, 1, 0, 0, 0, 0,
      16, 0, 0, 0, 4, 0, 3, 2, 0, 0, 0, 1, 0, 0, 0, 0, 1, 3, 0, 19, 0, 0, 0, 2, 0, 0, 0, 4, 0,
      54, 0, 0, 1, 0, 0, 0, 5, 34, 0, 0, 0, 1, 0, 0,
      35, 0, 0, 0, 2, 0, 0, 0, 2, 0, 0, 0, 3, 63, 128, 0, 0, 1, 144, 0, 47,
      64, 0, 0, 0, 5, 0, 0, 0, 1, 0, 0, 0, 7]
    let measure : TextMeasure := fun _ _ => .empty
    ∃ loaded after, load bytes {} = .ok loaded ∧
      let before := (loaded.update .empty measure).2
      before.touch ⟨1⟩ (.down .origin) = (true, after) ∧
      ∃ record, after.scene.dispatcher.pending = before.scene.dispatcher.pending ++ [record] ∧
        1 ∈ record.affected ∧ ∀ j ∈ [1, 0], after.scene.layout.dirty j = .all := by
  intro bytes measure
  have hfacts : (load bytes {}).toOption.any (fun loaded => decide (
      let before := (loaded.update .empty measure).2
      let after := (before.touch ⟨1⟩ (.down .origin)).2
      before.scene.content.store.Ordered before.scene.content.derived ∧
      (before.touch ⟨1⟩ (.down .origin)).1 = true ∧
      before.scene.content.tree.subtree 1 ++ before.scene.content.tree.ancestors 1 = [1, 0] ∧
      (before.scene.content.tree.node? 1).any fun n => decide (
        n.appearance after.scene.content.store ≠ n.appearance before.scene.content.store))) =
      true := by
    decide +kernel
  obtain ⟨loaded, hload, hfacts⟩ := Result.exists_ok_of_any hfacts
  obtain ⟨hordered, htouch, hlines, hnode⟩ := of_decide_eq_true hfacts
  obtain ⟨n, hnode, hne⟩ := (Option.any_eq_true _ _).1 hnode
  have htouch : (loaded.update .empty measure).2.touch ⟨1⟩ (.down .origin) = (true, _) :=
    Prod.ext htouch rfl
  obtain ⟨record, hrecord, hinvalidated⟩ :=
    touch_after_update hload [] .empty measure ⟨1⟩ (.down .origin) hordered htouch
  obtain ⟨haffected, hdirty⟩ := hinvalidated 1 n hnode (of_decide_eq_true hne)
  refine ⟨loaded, _, hload, htouch, record, hrecord, haffected, fun j hj => hdirty j ?_⟩
  rw [← hlines] at hj
  exact .tail 1 hj

end Document

end Panel
