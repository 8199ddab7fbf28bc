import Panel.Proofs.Document.Call
import Panel.Proofs.Touch.OnDemand

/-!
# Touches without derived slots

A touch does what it would do if derived variables had no slots and were computed, whenever they
are read, from the variables that do.  This goes for every variable afterwards, for what comes of
each action, and for the requests to the host.
-/

namespace Panel

theorem ComponentTree.id_of_indexOf? {t : ComponentTree} {id : ComponentId} {i : Nat} {n : Node}
    (hindex : t.indexOf? id = some i) (hnode : t.node? i = some n) : n.id = id := by
  obtain ⟨hi, hid, -⟩ := List.findIdx?_eq_some_iff_getElem.1 hindex
  rw [node?, List.getElem?_eq_getElem hi] at hnode
  exact Option.some.inj hnode ▸ of_decide_eq_true hid

/-- The variables as actions leave them: those that are not derived as the run without derived slots
leaves them, and the derived ones as they are then computed. -/
theorem Content.Agrees.get_eq {content : Content} {run : ActionRun} {demand : DemandRun}
    (h : content.Agrees run demand) : run.store.get = demand.base.onDemand content.derived := by
  rw [h.settled.get_eq h.ordered, Store.onDemand, h.base]

namespace Document

/-- A delivered touch does what its actions do on demand. -/
theorem touch_eq_onDemand {bytes : List UInt8} {config : Config} {loaded after : Document}
    (h : load bytes config = .ok loaded) (calls : List HostCall) (component : ComponentId)
    (event : TouchEvent) :
    let d := loaded.run calls
    let content := d.scene.content
    content.store.Ordered content.derived → d.touch component event = (true, after) →
    ∃ index, content.tree.indexOf? component = some index ∧
      let bound := content.tree.actionsFor index event.trigger
      let demand := content.runAllOnDemand component event bound
      let view := demand.base.onDemand content.derived
      after.scene.content.store = content.store.holding view ∧
      (∀ id, after.scene.content.store.get id = view id) ∧
      after.scene.content.store.without content.derived = demand.base ∧
      content.outcomes component event ⟨content.store.refreshed content.derived, [], []⟩ bound =
        demand.outcomes ∧
      after.scene.dispatcher.hostEvents = d.scene.dispatcher.hostEvents ++ demand.hostEvents := by
  intro d content hordered htouch
  have hloaded := pristine_of_load h
  have hdeclares := (hloaded.follows.run hloaded calls).declares hloaded
  obtain ⟨index, n, hindex, hnode, hdelivered⟩ := exists_deliver_of_touch htouch
  have hid : n.id = component := ComponentTree.id_of_indexOf? hindex hnode
  have hbound : Modifiers.actionsFor n.modifiers event.trigger =
      content.tree.actionsFor index event.trigger := by
    rw [ComponentTree.actionsFor, hnode]
  obtain ⟨hagrees, houtcomes⟩ := Content.agrees_runActions component event hdeclares hordered
    (content.tree.actionsFor index event.trigger)
  rw [hid, hbound] at hdelivered
  subst hdelivered
  refine ⟨index, hindex, ?_, ?_, ?_, houtcomes.symm, ?_⟩
  · rw [← hagrees.get_eq]
    exact Store.eq_holding hagrees.declares.ids (Content.cleared_runActions hdeclares _)
  · intro id
    rw [← hagrees.get_eq]
    rfl
  · rw [hagrees.base]
    rfl
  · rw [hagrees.hostEvents]
    rfl

theorem touch_eq_onDemand_compounds :
    let bytes : List UInt8 := [0, 3, 0, 3, 0, 0, 0, 108, 1, 0, 0, 0, 1, 0, 0, 0, 0,
      16, 0, 0, 0, 2, 0, 3, 2, 0, 0, 0, 1, 0, 0, 0, 0, 1, 3, 0,
      54, 0, 0, 5, 0, 0, 0, 5, 0, 0, 0, 6, 0, 0, 0, 5, 0, 0, 0, 8, 0, 0, 0, 7,
      34, 0, 0, 0, 1, 0, 0, 47, 67, 0, 0, 0, 5, 0, 0, 0, 1, 0, 0, 0, 2,
      64, 0, 0, 0, 6, 0, 0, 0, 2, 0, 0, 0, 9, 68, 0, 0, 0, 7, 0, 0, 0, 3,
      66, 0, 0, 0, 8, 0, 0, 0, 1, 0, 0, 0, 2]
    ∃ loaded after, load bytes {} = .ok loaded ∧
      let d := loaded.run [.update .empty fun _ _ => .empty]
      let content := d.scene.content
      let demand := content.runAllOnDemand ⟨1⟩ (.down .origin) (content.tree.actionsFor 0 .down)
      d.touch ⟨1⟩ (.down .origin) = (true, after) ∧
      demand.outcomes.map Except.toOption = [some (.written ⟨1⟩ true), some (.written ⟨2⟩ true),
        some (.written ⟨1⟩ true), none, some (.host 3)] ∧
      demand.base.slots = [⟨⟨1⟩, .int 2, false⟩] ∧
      (∀ id, after.scene.content.store.get id = demand.base.onDemand content.derived id) ∧
      after.scene.dispatcher.hostEvents = d.scene.dispatcher.hostEvents ++ demand.hostEvents := by
  intro bytes
  let calls : List HostCall := [.update .empty fun _ _ => .empty]
  have hfacts : (load bytes {}).toOption.any (fun loaded => decide (
      let d := loaded.run calls
      let content := d.scene.content
      let demand := content.runAllOnDemand ⟨1⟩ (.down .origin) (content.tree.actionsFor 0 .down)
      content.store.Ordered content.derived ∧ content.tree.indexOf? ⟨1⟩ = some 0 ∧
      (d.touch ⟨1⟩ (.down .origin)).1 = true ∧
      demand.outcomes.map Except.toOption = [some (.written ⟨1⟩ true), some (.written ⟨2⟩ true),
        some (.written ⟨1⟩ true), none, some (.host 3)] ∧
      demand.base.slots = [⟨⟨1⟩, .int 2, false⟩])) = true := by
    decide +kernel
  obtain ⟨loaded, hload, hfacts⟩ := Result.exists_ok_of_any hfacts
  obtain ⟨hordered, hroot, htouch, houtcomes, hslots⟩ := of_decide_eq_true hfacts
  have htouch : (loaded.run calls).touch ⟨1⟩ (.down .origin) = (true, _) := Prod.ext htouch rfl
  obtain ⟨index, hindex, -, hget, -, -, hevents⟩ :=
    touch_eq_onDemand hload calls ⟨1⟩ (.down .origin) hordered htouch
  obtain rfl : 0 = index := Option.some.inj (hroot.symm.trans hindex)
  exact ⟨loaded, _, hload, htouch, houtcomes, hslots, hget, hevents⟩

end Document

end Panel
