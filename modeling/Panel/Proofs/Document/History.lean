import Panel.Proofs.Derived.OnDemand
import Panel.Proofs.Document.Frame
import Panel.Proofs.Layout.InPlace
import Panel.Proofs.Layout.Stale
import Panel.Proofs.Wire.Document

/-!
# Frames and what was before

A document at play remembers little.  Of two documents in the same buffer that hold the same values
in the end, whatever has been done to them before and whatever players they were loaded for, the
next frame is the same, and points belong to the same components in it.  The layouts that the two
are written over need not be the same: they are read where they have just been written, and kept
where nobody looks.
-/

namespace Panel

/-! ## One buffer, two players -/

namespace Assembly

variable {maxDepth maxDepth' : Nat} {a b b' : Assembly}

/-- How deep containers may be nested decides whether a step is taken, and not where it leads. -/
theorem step_unique {op : Operation} (h : step maxDepth a op = .ok b)
    (h' : step maxDepth' a op = .ok b') : b' = b := by
  cases op with
  | component id kind =>
      obtain ⟨-, -, -, rfl⟩ := component_eq_ok.1 h
      obtain ⟨-, -, -, rfl⟩ := component_eq_ok.1 h'
      rfl
  | _ => exact Except.ok.inj (h'.symm.trans h)

theorem foldlM_step_unique {operations : List Operation}
    (h : operations.foldlM (step maxDepth) a = .ok b)
    (h' : operations.foldlM (step maxDepth') a = .ok b') : b' = b := by
  induction operations using List.reverseRecOn generalizing b b' with
  | nil => exact Except.ok.inj (h'.symm.trans h)
  | append_singleton operations op ih =>
      obtain ⟨m, hfront, hstep⟩ := Result.foldlM_concat_eq_ok.1 h
      obtain ⟨m', hfront', hstep'⟩ := Result.foldlM_concat_eq_ok.1 h'
      obtain rfl : m' = m := ih hfront hfront'
      exact step_unique hstep hstep'

end Assembly

theorem Content.ofOperations_unique {operations : List Operation} {maxDepth maxDepth' : Nat}
    {content content' : Content} (h : ofOperations operations maxDepth = .ok content)
    (h' : ofOperations operations maxDepth' = .ok content') : content' = content := by
  obtain ⟨a, hrun, hfinish⟩ := Result.bind_eq_ok.1 h
  obtain ⟨a', hrun', hfinish'⟩ := Result.bind_eq_ok.1 h'
  obtain rfl : a' = a := Assembly.foldlM_step_unique hrun hrun'
  exact Except.ok.inj (hfinish'.symm.trans hfinish)

namespace Document

variable {bytes : List UInt8} {config config' : Config} {loaded loaded' d d' : Document}

/-- Two players load the same from a buffer, but for the viewport. -/
theorem load_unique (h : load bytes config = .ok loaded)
    (h' : load bytes config' = .ok loaded') :
    loaded' = { loaded with viewport := loaded'.viewport } := by
  obtain ⟨decoded, hdecode, h⟩ := Result.bind_eq_ok.1 h
  obtain ⟨decoded', hdecode', h'⟩ := Result.bind_eq_ok.1 h'
  obtain rfl : decoded' = decoded := Wire.decodeDocument_unique hdecode hdecode'
  obtain ⟨content, hcontent, ⟨⟩⟩ := Result.bind_eq_ok.1 h
  obtain ⟨content', hcontent', ⟨⟩⟩ := Result.bind_eq_ok.1 h'
  obtain rfl : content' = content := Content.ofOperations_unique hcontent hcontent'
  rfl

/-! ## The same values -/

/-- Documents that come of the same and hold the same values have the same content. -/
theorem Follows.content_eq (h : Follows loaded d) (hloaded : loaded.Pristine)
    (h' : Follows loaded d') (hget : ∀ id, d'.get id = d.get id) :
    d'.scene.content = d.scene.content := by
  have hstore : d'.scene.content.store = d.scene.content.store := by
    have hids := (h.declares hloaded).ids
    have hids' := (h'.declares hloaded).ids
    calc d'.scene.content.store
      _ = loaded.scene.content.store.holding d'.scene.content.store.get :=
        Store.eq_holding hids' h'.cleared
      _ = loaded.scene.content.store.holding d.scene.content.store.get := by
        rw [show d'.scene.content.store.get = d.scene.content.store.get from funext hget]
      _ = d.scene.content.store := (Store.eq_holding hids h.cleared).symm
  rw [h'.content, h.content, hstore]

/-! ## The next frame -/

/-- The next frame follows from the content, the viewport and the size of texts, whatever was laid
out before. -/
structure SameFrame (d d' : Document) : Prop where
  content : d'.scene.content = d.scene.content
  layout : d.scene.layout.SamePlaces d'.scene.layout

theorem sameFrame_update (hcontent : d'.scene.content = d.scene.content)
    (hproper : d.scene.content.tree.root.Proper) (viewport : Size) (textMeasure : TextMeasure) :
    SameFrame (d.update viewport textMeasure).2 (d'.update viewport textMeasure).2 where
  content := by rw [content_update, content_update, hcontent]
  layout := by
    rw [layout_update, layout_update, hcontent]
    exact (Layout.samePlaces_compute hproper _ _).clearDirty

theorem SameFrame.paint_eq (h : SameFrame d d') : d'.paint = d.paint := by
  rw [paint, Scene.paint, h.content]
  exact ComponentTree.paint_samePlaces _ _ h.layout

theorem SameFrame.phase?_eq_placed (h : SameFrame d d') (component : ComponentId) :
    d'.phase? component = some .placed ↔ d.phase? component = some .placed := by
  rw [phase?, phase?, h.content]
  cases d.scene.content.tree.indexOf? component with
  | none => rfl
  | some index =>
      have hplaced := h.layout.isPlaced index
      rw [Layout.isPlaced, Layout.isPlaced, decide_eq_decide] at hplaced
      simpa using hplaced

theorem SameFrame.bounds?_eq (h : SameFrame d d') {component : ComponentId}
    (hplaced : d.phase? component = some .placed) : d'.bounds? component = d.bounds? component := by
  rw [bounds?, bounds?, h.content]
  rw [phase?, Option.map_eq_some_iff] at hplaced
  obtain ⟨index, hindex, hphase⟩ := hplaced
  rw [hindex, Option.map_some, Option.map_some]
  exact congrArg some (h.layout.bounds index (decide_eq_true hphase))

theorem SameFrame.hit?_eq (h : SameFrame d d') (p : Point) : d'.scene.hit? p = d.scene.hit? p := by
  rw [Scene.hit?, Scene.hit?, h.content]
  exact ComponentTree.hit?_samePlaces _ h.layout p

theorem SameFrame.componentAt?_eq (h : SameFrame d d') (p : Point) :
    d'.componentAt? p = d.componentAt? p := by
  have hid : d'.idAt? = d.idAt? := by
    funext index
    rw [idAt?, idAt?, h.content]
  rw [componentAt?, componentAt?, h.hit?_eq, hid]

theorem SameFrame.touchTarget?_eq (h : SameFrame d d') (p : Point) (trigger : TouchTrigger) :
    d'.touchTarget? p trigger = d.touchTarget? p trigger := by
  have hid : d'.idAt? = d.idAt? := by
    funext index
    rw [idAt?, idAt?, h.content]
  rw [touchTarget?, touchTarget?, h.hit?_eq, hid, h.content]

/-- The layout of the next frame, written over the layout of the last one. -/
def overwritten (d : Document) (viewport : Size) (textMeasure : TextMeasure) : Layout :=
  let scene := d.scene.refresh
  (d.scene.layout.overwrite scene.content.tree ⟨scene.content.store, textMeasure⟩
    viewport).clearDirty

theorem overwritten_eq (hproper : d.scene.content.tree.root.Proper) (viewport : Size)
    (textMeasure : TextMeasure) :
    d.overwritten viewport textMeasure = (d.update viewport textMeasure).2.scene.layout := by
  rw [layout_update, overwritten]
  exact congrArg Layout.clearDirty (Layout.overwrite_eq_compute hproper d.scene.layout)

/-- A frame does not depend on what was before.  Of two documents in the same buffer, loaded by any
players and called in any ways, that hold the same values in the end, the next frame is painted by
the same calls and places the same components at the same places, and points belong to the same
components and are handled by the same ones.  All this is so though the layout of either frame is
what becomes of the layout before when it is written over. -/
theorem renderFrame_eq_of_get_eq (h : load bytes config = .ok loaded)
    (h' : load bytes config' = .ok loaded') (calls calls' : List HostCall) (viewport : Size)
    (textMeasure : TextMeasure)
    (hget : ∀ id, (loaded'.run calls').get id = (loaded.run calls).get id) :
    let frame := (loaded.run calls).renderFrame viewport textMeasure
    let frame' := (loaded'.run calls').renderFrame viewport textMeasure
    frame.2.2.scene.layout = (loaded.run calls).overwritten viewport textMeasure ∧
    frame'.2.2.scene.layout = (loaded'.run calls').overwritten viewport textMeasure ∧
    frame'.2.1 = frame.2.1 ∧
    (∀ component, frame'.2.2.phase? component = some .placed ↔
      frame.2.2.phase? component = some .placed) ∧
    (∀ component, frame.2.2.phase? component = some .placed →
      frame'.2.2.bounds? component = frame.2.2.bounds? component) ∧
    (∀ p, frame'.2.2.componentAt? p = frame.2.2.componentAt? p) ∧
    ∀ p trigger, frame'.2.2.touchTarget? p trigger = frame.2.2.touchTarget? p trigger := by
  intro frame frame'
  have hloaded := pristine_of_load h
  have hrun : Follows loaded (loaded.run calls) := hloaded.follows.run hloaded calls
  have hrun' : Follows loaded (loaded'.run calls') := by
    apply Follows.run _ hloaded
    rw [load_unique h h']
    exact hloaded.follows.withScene rfl rfl hloaded.follows.dependencies hloaded.follows.size
  have hcontent := hrun.content_eq hloaded hrun' hget
  have hsame : SameFrame frame.2.2 frame'.2.2 :=
    sameFrame_update hcontent (hrun.proper hloaded) viewport textMeasure
  exact ⟨(overwritten_eq (hrun.proper hloaded) ..).symm,
    (overwritten_eq (hrun'.proper hloaded) ..).symm, hsame.paint_eq, hsame.phase?_eq_placed,
    fun _ => hsame.bounds?_eq, hsame.componentAt?_eq, hsame.touchTarget?_eq⟩

/-- A component that is gone keeps the place that it had in an earlier frame, if there was one.  The
next frame is the same all the same. -/
theorem renderFrame_eq_of_get_eq_gone :
    let bytes : List UInt8 := [0, 3, 0, 3, 0, 0, 0, 59, 1, 0, 0, 0, 1, 0, 0, 0, 0,
      6, 0, 0, 0, 1, 0, 0, 0, 1, 110, 32, 0, 0, 0, 1, 0, 0, 0, 0, 0, 0,
      53, 1, 0, 0, 0, 1, 48, 1, 63, 128, 0, 0, 36, 0, 0, 0, 2,
      48, 1, 64, 0, 0, 0, 36, 0, 0, 0, 3, 47]
    let textMeasure : TextMeasure := fun _ _ => .empty
    let hide : HostCall := .setNamed "n" (.int 2)
    ∃ loaded loaded', load bytes {} = .ok loaded ∧ load bytes { maxDepth := 2 } = .ok loaded' ∧
      let frame := (loaded.run [.update .empty textMeasure, hide]).renderFrame .empty textMeasure
      let frame' := (loaded'.run [hide]).renderFrame .empty textMeasure
      frame'.2.2.bounds? ⟨2⟩ ≠ frame.2.2.bounds? ⟨2⟩ ∧
      frame.2.2.phase? ⟨3⟩ = some .placed ∧
      frame'.2.2.bounds? ⟨3⟩ = frame.2.2.bounds? ⟨3⟩ ∧
      frame'.2.1 = frame.2.1 := by
  intro bytes textMeasure hide
  have hfacts : (load bytes {}).toOption.any (fun loaded =>
      (load bytes { maxDepth := 2 }).toOption.any fun loaded' => decide (
        let d := loaded.run [.update .empty textMeasure, hide]
        let d' := loaded'.run [hide]
        d'.scene.content.store = d.scene.content.store ∧
        (d'.renderFrame .empty textMeasure).2.2.bounds? ⟨2⟩ ≠
          (d.renderFrame .empty textMeasure).2.2.bounds? ⟨2⟩ ∧
        (d.renderFrame .empty textMeasure).2.2.phase? ⟨3⟩ = some .placed)) = true := by
    decide +kernel
  obtain ⟨loaded, hload, hfacts⟩ := Result.exists_ok_of_any hfacts
  obtain ⟨loaded', hload', hfacts⟩ := Result.exists_ok_of_any hfacts
  obtain ⟨hstore, hgone, hplaced⟩ := of_decide_eq_true hfacts
  have hget (id : VariableId) : (loaded'.run [hide]).get id =
      (loaded.run [.update .empty textMeasure, hide]).get id := by
    rw [get, get, hstore]
  obtain ⟨-, -, hpaint, -, hbounds, -, -⟩ :=
    renderFrame_eq_of_get_eq hload hload' _ _ .empty textMeasure hget
  exact ⟨loaded, loaded', hload, hload', hgone, hplaced, hbounds ⟨3⟩ hplaced, hpaint⟩

end Document

end Panel
