import Panel.Proofs.Document.Call

/-!
# Frames that need not be drawn again

A document that is not dirty after some calls shows what the last frame showed, so that the frame
need not be drawn again.  There is one exception.  A write of one zero over the zero of the other
sign is taken for no change, because the two are equal as numbers, but it is stored, and a text
made from the number shows the sign.
-/

namespace Panel

/-! ## Writes that are no change -/

theorem Single.eq_or_isZero_of_sameNumber {x y : Single} (h : x.sameNumber y = true) :
    x = y ∨ x.isZero = true ∧ y.isZero = true := by
  have hkey : x.key = y.key := by
    simp only [sameNumber, Bool.and_eq_true, decide_eq_true_eq] at h
    exact h.2
  have hx := x.bits.toNat_lt
  have hy := y.bits.toNat_lt
  by_cases hbits : x.bits.toNat = y.bits.toNat
  · left
    obtain ⟨a⟩ := x
    obtain ⟨b⟩ := y
    exact congrArg Single.mk (UInt32.toNat_inj.1 hbits)
  · right
    rw [isZero, isZero, decide_eq_true_eq, decide_eq_true_eq]
    simp only [key, isNegative, magnitude, decide_eq_true_eq] at hkey ⊢
    split at hkey <;> split at hkey <;> omega

/-- Whether the values are the two zeros. -/
def Value.swapsZero : Value → Value → Bool
  | float x, float y => x.isZero && y.isZero && decide (x ≠ y)
  | _, _ => false

/-- What a write takes for no change is none, but for the zeros. -/
theorem Value.eq_or_swapsZero_of_agrees {old new : Value} (h : old.agrees new = true) :
    old = new ∨ old.swapsZero new = true := by
  by_cases heq : old = new
  · exact .inl heq
  · right
    cases old with
    | float x =>
        cases new with
        | float y =>
            have hne : x ≠ y := fun hxy => heq (congrArg Value.float hxy)
            obtain ⟨hx, hy⟩ := (Single.eq_or_isZero_of_sameNumber h).resolve_left hne
            simp [swapsZero, hx, hy, hne]
        | _ => simp [agrees] at h
    | _ => exact absurd (of_decide_eq_true h) heq

namespace HostCall

/-- Whether a call belongs between two frames: it neither lays out nor starts over. -/
def isBetweenFrames : HostCall → Bool
  | update .. => false
  | restart => false
  | _ => true

/-- Whether a call puts one zero in place of the other. -/
def swapsZero (store : Store) : HostCall → Bool
  | setNamed name value =>
    ((store.lookupName name).bind store.slot?).any fun slot => slot.value.swapsZero value
  | _ => false

end HostCall

namespace Document

variable {d e loaded : Document} {viewport : Size} {textMeasure : TextMeasure}

/-- Whether one of the calls puts one zero in place of the other. -/
def swapsZero (d : Document) : List HostCall → Bool
  | [] => false
  | call :: rest => call.swapsZero d.scene.content.store || (d.perform call).swapsZero rest

/-! ## Between frames -/

/-- The two documents have the same variables and the same layout. -/
structure SamePicture (d e : Document) : Prop where
  content : e.scene.content = d.scene.content
  layout : e.scene.layout = d.scene.layout

theorem Follows.size_pos (h : Follows loaded d) : 0 < d.scene.layout.size := by
  rw [h.size]
  exact d.scene.content.tree.root.size_pos

/-- A write that is taken for no change leaves the document as it is, but for the zeros. -/
theorem Follows.eq_of_setNamed (h : Follows loaded d) (hloaded : loaded.Pristine) {name : String}
    {value : Value} (hset : d.setNamed name value = .ok (false, e))
    (hzero : (HostCall.setNamed name value).swapsZero d.scene.content.store = false) : e = d := by
  obtain ⟨id, store, hname, hwrite, rfl⟩ := setNamed_eq_ok.1 hset
  obtain ⟨old, hslot, -, hchanged, rfl⟩ := Store.set_eq_ok.1 hwrite
  have hold := Store.get_of_slot? hslot
  have hagrees : old.agrees value = true := by simpa using hchanged
  have hsame : old = value := by
    apply (Value.eq_or_swapsZero_of_agrees hagrees).resolve_right
    simpa [HostCall.swapsZero, hname, hslot] using hzero
  rw [Store.write_eq_self (h.declares hloaded).ids (hsame ▸ hold)]
  rfl

/-- A call between frames leaves everything as it is or makes the document dirty. -/
theorem Follows.perform_between (h : Follows loaded d) (hloaded : loaded.Pristine) {call : HostCall}
    (hcall : call.isBetweenFrames = true)
    (hzero : call.swapsZero d.scene.content.store = false) :
    (d.perform call).isDirty = true ∨ SamePicture d (d.perform call) := by
  cases call with
  | update viewport textMeasure => contradiction
  | restart => contradiction
  | paint => exact .inr ⟨rfl, rfl⟩
  | takeHostEvents => exact .inr ⟨rfl, rfl⟩
  | touch component event =>
      rcases d.touch_cases component event with htouch | ⟨index, n, -, -, -, htouch⟩
      · rw [Document.perform, htouch]
        exact .inr ⟨rfl, rfl⟩
      · rw [Document.perform, htouch]
        exact .inl (Layout.anyDirty_invalidate h.size_pos)
  | setNamed name value =>
      rw [Document.perform]
      cases hset : d.setNamed name value with
      | error e => exact .inr ⟨rfl, rfl⟩
      | ok result =>
          obtain ⟨changed, e⟩ := result
          cases changed with
          | true =>
              obtain ⟨id, store, -, -, rfl⟩ := setNamed_eq_ok.1 hset
              obtain ⟨components, hlayout⟩ := d.scene.layout_changed id value.kind store
              left
              show (d.scene.changed id value.kind store).layout.anyDirty = true
              rw [hlayout]
              exact Layout.anyDirty_invalidate h.size_pos
          | false =>
              obtain rfl := h.eq_of_setNamed hloaded hset hzero
              exact .inr ⟨rfl, rfl⟩

/-- Nothing between frames takes dirt away, so that a document which is clean in the end has been
left as it was by every call. -/
theorem Follows.run_between (h : Follows loaded d) (hloaded : loaded.Pristine)
    {calls : List HostCall} (hcalls : ∀ call ∈ calls, call.isBetweenFrames = true)
    (hzero : d.swapsZero calls = false) :
    (d.run calls).isDirty = true ∨ SamePicture d (d.run calls) := by
  induction calls generalizing d with
  | nil => exact .inr ⟨rfl, rfl⟩
  | cons call calls ih =>
      rw [List.forall_mem_cons] at hcalls
      rw [swapsZero, Bool.or_eq_false_iff] at hzero
      rw [run_cons]
      rcases ih (h.perform hloaded call) hcalls.2 hzero.2 with hdirty | hafter
      · exact .inl hdirty
      · rcases h.perform_between hloaded hcalls.1 hzero.1 with hdirty | hsame
        -- the calls after it have left the layout alone, marks included
        · left
          rwa [isDirty, hafter.layout]
        · right
          exact ⟨hafter.content.trans hsame.content, hafter.layout.trans hsame.layout⟩

/-! ## Two frames -/

theorem content_update (d : Document) (viewport : Size) (textMeasure : TextMeasure) :
    (d.update viewport textMeasure).2.scene.content = { d.scene.content with
      store := d.scene.content.store.refreshed d.scene.content.derived } := rfl

theorem layout_update (d : Document) (viewport : Size) (textMeasure : TextMeasure) :
    (d.update viewport textMeasure).2.scene.layout =
      (d.scene.layout.compute d.scene.content.tree
        ⟨d.scene.content.store.refreshed d.scene.content.derived, textMeasure⟩
        viewport).clearDirty := rfl

/-- An update finds nothing to do in a document that shows what the update before has laid out. -/
theorem SamePicture.update (hproper : d.scene.content.tree.root.Proper)
    (hstore : (d.scene.content.store.refreshed d.scene.content.derived).refreshed
      d.scene.content.derived = d.scene.content.store.refreshed d.scene.content.derived)
    (h : SamePicture (d.update viewport textMeasure).2 e) :
    SamePicture (d.update viewport textMeasure).2 (e.update viewport textMeasure).2 where
  content := by
    rw [content_update e, h.content, content_update d]
    dsimp only
    rw [hstore]
  layout := by
    rw [layout_update e, h.content, h.layout, content_update d, layout_update d]
    dsimp only
    rw [hstore]
    exact Layout.compute_compute hproper _

/-- A document that is not dirty after calls between frames draws the same frame again, unless one
of the calls put one zero in place of the other. -/
theorem renderFrame_of_not_isDirty {bytes : List UInt8} {config : Config} {loaded : Document}
    (h : load bytes config = .ok loaded) (before between : List HostCall) (viewport : Size)
    (textMeasure : TextMeasure) :
    let d := loaded.run before
    let frame := d.renderFrame viewport textMeasure
    let later := frame.2.2.run between
    d.scene.content.store.Ordered d.scene.content.derived →
    (∀ call ∈ between, call.isBetweenFrames = true) → frame.2.2.swapsZero between = false →
    later.isDirty = false → (later.renderFrame viewport textMeasure).2.1 = frame.2.1 := by
  intro d frame later hordered hcalls hzero hclean
  have hloaded := pristine_of_load h
  have hd : Follows loaded d := hloaded.follows.run hloaded before
  have hsame : SamePicture (d.update viewport textMeasure).2 later := by
    have hframe := hd.update hloaded viewport textMeasure
    apply (hframe.run_between hloaded hcalls hzero).resolve_left
    intro hdirty
    exact Bool.false_ne_true (hclean.symm.trans hdirty)
  have hagain := hsame.update (hd.proper hloaded)
    (Store.refreshed_refreshed (hd.declares hloaded) hordered)
  show (later.update viewport textMeasure).2.scene.paint =
    (d.update viewport textMeasure).2.scene.paint
  rw [Scene.paint, Scene.paint, hagain.content, hagain.layout]

/-- A document that shows the number that the host knows as `x`, in a text without decimals. -/
def numberDocument : List UInt8 :=
  [0, 3, 0, 3, 0, 0, 0, 57, 2, 0, 0, 0, 1, 0, 0, 0, 0, 6, 0, 0, 0, 1, 0, 0, 0, 1, 120,
    19, 0, 0, 0, 2, 0, 0, 0, 1, 0, 34, 0, 0, 0, 1, 0, 0,
    35, 0, 0, 0, 2, 0, 0, 0, 2, 0, 0, 0, 3, 63, 128, 0, 0, 1, 144, 0, 47]

theorem renderFrame_of_not_isDirty_same :
    let between : List HostCall := [.setNamed "x" (.float .zero), .takeHostEvents]
    let measure : TextMeasure := fun _ _ => .empty
    ∃ loaded, load numberDocument {} = .ok loaded ∧
      let frame := loaded.renderFrame .empty measure
      let later := frame.2.2.run between
      later.isDirty = false ∧ (later.renderFrame .empty measure).2.1 = frame.2.1 := by
  intro between measure
  have hfacts : (load numberDocument {}).toOption.any (fun loaded => decide (
      loaded.scene.content.store.Ordered loaded.scene.content.derived ∧
      (loaded.renderFrame .empty measure).2.2.swapsZero between = false ∧
      ((loaded.renderFrame .empty measure).2.2.run between).isDirty = false)) = true := by
    decide +kernel
  obtain ⟨loaded, hload, hfacts⟩ := Result.exists_ok_of_any hfacts
  obtain ⟨hordered, hzero, hclean⟩ := of_decide_eq_true hfacts
  have hcalls : ∀ call ∈ between, call.isBetweenFrames = true := by
    simp [between, HostCall.isBetweenFrames]
  exact ⟨loaded, hload, hclean,
    renderFrame_of_not_isDirty hload [] between .empty measure hordered hcalls hzero hclean⟩

/-- The sign of a zero shows in a frame although the document is not dirty. -/
theorem renderFrame_shows_sign :
    let measure : TextMeasure := fun _ _ => .empty
    ∃ loaded, load numberDocument {} = .ok loaded ∧
      let frame := loaded.renderFrame .empty measure
      let later := frame.2.2.run [.setNamed "x" (.float .negZero)]
      (∀ d ∈ [loaded, frame.2.2, later], d.scene.content.store.Ordered d.scene.content.derived) ∧
      later.isDirty = false ∧
      frame.2.1.filterMap PaintCall.drawnText? = ["0"] ∧
      (later.renderFrame .empty measure).2.1.filterMap PaintCall.drawnText? = ["-0"] := by
  intro measure
  have hfacts : (load numberDocument {}).toOption.any (fun loaded => decide (
      let frame := loaded.renderFrame .empty measure
      let later := frame.2.2.run [.setNamed "x" (.float .negZero)]
      (∀ d ∈ [loaded, frame.2.2, later], d.scene.content.store.Ordered d.scene.content.derived) ∧
      later.isDirty = false ∧
      frame.2.1.filterMap PaintCall.drawnText? = ["0"] ∧
      (later.renderFrame .empty measure).2.1.filterMap PaintCall.drawnText? = ["-0"])) = true := by
    decide +kernel
  obtain ⟨loaded, hload, hfacts⟩ := Result.exists_ok_of_any hfacts
  exact ⟨loaded, hload, of_decide_eq_true hfacts⟩

end Document

end Panel
