import Panel.Proofs.Content.Tree
import Panel.Proofs.Document.Invalidation
import Panel.Proofs.Paint.Drawn

/-!
# Touches and their targets

A point belongs to a component that is drawn, and so is everything above that component.  Hence the
component that handles a touch at a point, which is that component or one above it, can be touched:
its name leads back to it, it is drawn, and it binds actions to the trigger.
-/

namespace Panel

namespace ComponentTree

variable {t : ComponentTree} {l : Layout} {i k : Nat} {n : Node} {trigger : TouchTrigger}

/-- Counted upwards from a component, `k` is the first that binds actions to a trigger. -/
def HandledBy (t : ComponentTree) (i : Nat) (trigger : TouchTrigger) (k : Nat) : Prop :=
  ∃ front back, i :: t.ancestors i = front ++ k :: back ∧ t.actionsFor k trigger ≠ [] ∧
    ∀ j ∈ front, t.actionsFor j trigger = []

theorem handler?_eq_some_iff : t.handler? i trigger = some k ↔ t.HandledBy i trigger k := by
  rw [handler?, List.find?_eq_some_iff_append, HandledBy]
  constructor
  · rintro ⟨hbinds, front, back, hline, hfront⟩
    refine ⟨front, back, hline, by simpa using hbinds, fun j hj => ?_⟩
    simpa using hfront j hj
  · rintro ⟨front, back, hline, hbinds, hfront⟩
    refine ⟨by simpa using hbinds, front, back, hline, fun j hj => ?_⟩
    simpa using hfront j hj

theorem HandledBy.mem (h : t.HandledBy i trigger k) : k ∈ i :: t.ancestors i := by
  obtain ⟨front, back, hline, -, -⟩ := h
  rw [hline]
  exact List.mem_append_right _ List.mem_cons_self

/-! ## What is above a drawn component -/

/-- The components above one that is above another are above the other one, too. -/
theorem suffix_of_mem_ancestors (hnode : t.node? i = some n) (hk : k ∈ t.ancestors i) :
    ∃ m, t.node? k = some m ∧ k :: t.ancestors k <:+ i :: t.ancestors i := by
  obtain ⟨above, children, hi, -⟩ := exists_at_of_node? hnode
  rw [ancestors_eq hi] at hk
  obtain ⟨outer, d, hd, hlt, hle⟩ := hi.exists_of_mem_above k hk
  have hpos := Component.size_pos (.node n.id n.kind n.modifiers children)
  have hwithin : i < k + d.size := by omega
  obtain ⟨above', c', hi', hsuffix⟩ := Component.At.exists_within d hd hlt.le hwithin
  obtain ⟨m, hm, -⟩ := At.node? hd
  refine ⟨m, hm, ?_⟩
  rwa [ancestors_eq hd, ancestors_eq hi']

theorem isDrawn_of_mem (hnode : t.node? i = some n) (hdrawn : t.isDrawn l i = true)
    (hk : k ∈ i :: t.ancestors i) : ∃ m, t.node? k = some m ∧ t.isDrawn l k = true := by
  rcases List.mem_cons.1 hk with rfl | hk
  · exact ⟨n, hnode, hdrawn⟩
  · obtain ⟨m, hm, hsuffix⟩ := suffix_of_mem_ancestors hnode hk
    refine ⟨m, hm, ?_⟩
    rw [isDrawn_iff] at hdrawn ⊢
    intro j hj
    exact hdrawn j (hsuffix.subset hj)

/-- What a point belongs to is drawn. -/
theorem exists_node?_of_hit? {p : Point} (h : t.hit? l p = some i) :
    ∃ n, t.node? i = some n ∧ t.isDrawn l i = true := by
  rw [hit?] at h
  have hmem := List.mem_of_find?_eq_some h
  have hfound := List.find?_some h
  rw [List.mem_reverse, List.mem_range, ← length_nodes] at hmem
  rw [Bool.and_eq_true] at hfound
  exact ⟨t.nodes[i], List.getElem?_eq_getElem hmem, hfound.2⟩

end ComponentTree

namespace Document

variable {d loaded : Document} {bytes : List UInt8} {config : Config}

/-- Names are distinct in a document, whatever has been done to it. -/
theorem nodup_ids_of_run (h : load bytes config = .ok loaded) (calls : List HostCall) :
    ((loaded.run calls).scene.content.tree.nodes.map (·.id)).Nodup := by
  have hloaded := pristine_of_load h
  have hrun : Follows loaded (loaded.run calls) := hloaded.follows.run hloaded calls
  obtain ⟨decoded, -, h⟩ := Result.bind_eq_ok.1 h
  obtain ⟨content, hcontent, ⟨⟩⟩ := Result.bind_eq_ok.1 h
  rw [hrun.tree_eq]
  show (content.tree.nodes.map (·.id)).Nodup
  exact Content.nodup_ids_of_ofOperations hcontent

/-! ## Targets -/

/-- The component with a name is the one that handles touches of a trigger at a point. -/
def Handles (d : Document) (p : Point) (trigger : TouchTrigger) (component : ComponentId) : Prop :=
  ∃ hit k n, d.scene.hit? p = some hit ∧ d.scene.content.tree.HandledBy hit trigger k ∧
    d.scene.content.tree.node? k = some n ∧ n.id = component

theorem touchTarget?_eq_some_iff {p : Point} {trigger : TouchTrigger} {component : ComponentId} :
    d.touchTarget? p trigger = some component ↔ d.Handles p trigger component := by
  simp only [touchTarget?, Option.bind_eq_bind, Option.bind_eq_some_iff, idAt?,
    Option.map_eq_some_iff, ComponentTree.handler?_eq_some_iff, Handles]
  constructor
  · rintro ⟨hit, hhit, k, hk, n, hnode, hid⟩
    exact ⟨hit, k, n, hhit, hk, hnode, hid⟩
  · rintro ⟨hit, k, n, hhit, hk, hnode, hid⟩
    exact ⟨hit, hhit, k, hk, n, hnode, hid⟩

/-- The component that handles touches at a point can be touched. -/
theorem Handles.touch {p : Point} {component : ComponentId} {event : TouchEvent}
    (hnodup : (d.scene.content.tree.nodes.map (·.id)).Nodup)
    (h : d.Handles p event.trigger component) :
    ∃ after record, d.touch component event = (true, after) ∧
      after.scene.dispatcher.pending = d.scene.dispatcher.pending ++ [record] ∧
      record.component = component ∧ record.trigger = event.trigger := by
  obtain ⟨hit, k, n, hhit, hhandled, hnode, rfl⟩ := h
  have hindex := (ComponentTree.indexOf?_eq_some_iff hnodup).2 ⟨n, hnode, rfl⟩
  obtain ⟨m, hm, hdrawn⟩ := ComponentTree.exists_node?_of_hit? hhit
  obtain ⟨-, -, hdrawn⟩ := ComponentTree.isDrawn_of_mem hm hdrawn hhandled.mem
  obtain ⟨-, -, -, hbinds, -⟩ := hhandled
  have haccepts : d.scene.accepts k event.trigger = true := by
    rw [Scene.accepts, hdrawn, Bool.true_and]
    simpa using hbinds
  have htouch : d.touch n.id event = (true, { d with
      scene := d.scene.deliver n.id event (Modifiers.actionsFor n.modifiers event.trigger) }) := by
    rw [Document.touch, hindex]
    dsimp only
    rw [Scene.dispatch?, hnode]
    dsimp only
    rw [if_pos haccepts]
  exact ⟨_, _, htouch, Scene.pending_deliver, rfl, rfl⟩

/-- A touch at a point finds a target if the component there, or one above it, binds actions to it;
it finds the nearest of these.  The target can be touched, and the touch leaves one record.  So what
a mouse does has an effect just if it is a touch that finds a target. -/
theorem touchTarget?_accepts (h : load bytes config = .ok loaded) (calls : List HostCall) :
    let d := loaded.run calls
    (∀ p trigger component, d.touchTarget? p trigger = some component ↔
      d.Handles p trigger component) ∧
    (∀ p component event, d.touchTarget? p event.trigger = some component →
      ∃ after record, d.touch component event = (true, after) ∧
        after.scene.dispatcher.pending = d.scene.dispatcher.pending ++ [record] ∧
        record.component = component ∧ record.trigger = event.trigger) ∧
    ∀ event cell, (d.mouse event cell).1 = true ↔ ∃ touch component,
      event.touch? cell = some touch ∧
        d.touchTarget? (event.position cell) touch.trigger = some component := by
  intro d
  have hnodup := nodup_ids_of_run h calls
  have haccepted : ∀ p component event, d.touchTarget? p event.trigger = some component →
      ∃ after record, d.touch component event = (true, after) ∧
        after.scene.dispatcher.pending = d.scene.dispatcher.pending ++ [record] ∧
        record.component = component ∧ record.trigger = event.trigger :=
    fun p component event htarget => (touchTarget?_eq_some_iff.1 htarget).touch hnodup
  refine ⟨fun _ _ _ => touchTarget?_eq_some_iff, haccepted, fun event cell => ?_⟩
  unfold mouse
  cases htouch : event.touch? cell with
  | none => simp
  | some touch =>
      cases htarget : d.touchTarget? (event.position cell) touch.trigger with
      | none => simp [htarget]
      | some component =>
          obtain ⟨after, record, hdelivered, -⟩ := haccepted _ _ _ htarget
          simp [htarget, hdelivered]

/-- A text in a box that can be touched: the text is hit, and the box is the target. -/
theorem touchTarget?_accepts_box :
    let bytes : List UInt8 := [0, 3, 0, 3, 0, 0, 0, 87, 1, 0, 0, 0, 1, 0, 0, 0, 0,
      16, 0, 0, 0, 4, 0, 3, 2, 0, 0, 0, 1, 0, 0, 0, 0, 1, 3, 0, 19, 0, 0, 0, 2, 0, 0, 0, 4, 0,
      54, 0, 0, 1, 0, 0, 0, 5, 34, 0, 0, 0, 1, 0, 0,
      35, 0, 0, 0, 2, 0, 0, 0, 2, 0, 0, 0, 3, 63, 128, 0, 0, 1, 144, 0, 47,
      64, 0, 0, 0, 5, 0, 0, 0, 1, 0, 0, 0, 7]
    let unit : Size := ⟨.one, .one⟩
    let event : MouseEvent := ⟨.down .left, 0, 0⟩
    ∃ loaded, load bytes {} = .ok loaded ∧
      let d := loaded.run [.update unit fun _ _ => unit]
      d.scene.hit? (event.position unit) = some 1 ∧
      d.touchTarget? (event.position unit) .down = some ⟨1⟩ ∧
      d.Handles (event.position unit) .down ⟨1⟩ ∧ (d.mouse event unit).1 = true := by
  intro bytes unit event
  have hfacts : (load bytes {}).toOption.any (fun loaded => decide (
      let d := loaded.run [.update unit fun _ _ => unit]
      d.scene.hit? (event.position unit) = some 1 ∧
      d.touchTarget? (event.position unit) .down = some ⟨1⟩)) = true := by
    decide +kernel
  obtain ⟨loaded, hload, hfacts⟩ := Result.exists_ok_of_any hfacts
  obtain ⟨hhit, htarget⟩ := of_decide_eq_true hfacts
  obtain ⟨htargets, -, hmouse⟩ := touchTarget?_accepts hload [.update unit fun _ _ => unit]
  exact ⟨loaded, hload, hhit, htarget, (htargets _ _ _).1 htarget,
    (hmouse event unit).2 ⟨_, _, rfl, htarget⟩⟩

end Document

end Panel
