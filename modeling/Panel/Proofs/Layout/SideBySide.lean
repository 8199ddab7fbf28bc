import Panel.Proofs.Layout.Congruence
import Panel.Proofs.Layout.Measurement

/-!
# Two passes side by side

Two trees that differ only in spacings, and in these only as far as no child uses them, are measured
to related sizes in related rooms, and placed at related points from related origins.  A child that
takes no part is given no room, so the share that is computed where no child takes part does not
matter.
-/

namespace Panel

open Single (Congruence)

variable {R : Single → Single → Prop}

/-! ## Placing -/

namespace Measured

/-- The sizes of two measured trees are related, and from related origins so are their bounds. -/
structure Alike (R : Single → Single → Prop) (m m' : Measured) : Prop where
  size? : Option.Rel (Size.Alike R) m.size? m'.size?
  place : ∀ {origin origin' : Point}, origin.Alike R origin' →
    List.Forall₂ (Option.Rel (Bounds.Alike R)) (m.place origin) (m'.place origin')

variable {ms ms' : List Measured}

theorem alike_absent (count : Nat) : (absent count).Alike R (absent count) where
  size? := .none
  place := by
    intro origin origin' _
    rw [place, place, List.forall₂_same]
    intro bounds hbounds
    rw [List.eq_of_mem_replicate hbounds]
    exact .none

theorem Alike.toList_size? {m m' : Measured} (h : m.Alike R m') :
    List.Forall₂ (Size.Alike R) m.size?.toList m'.size?.toList := by
  have hsize := h.size?
  generalize m.size? = size?, m'.size? = size?' at hsize
  cases hsize with
  | none => exact .nil
  | some hsize => exact .cons hsize .nil

theorem alike_sizes (h : List.Forall₂ (Alike R) ms ms') :
    List.Forall₂ (Size.Alike R) (sizes ms) (sizes ms') := by
  induction h with
  | nil => exact .nil
  | @cons m m' _ _ hm _ ih =>
      rw [sizes_cons, sizes_cons]
      exact List.rel_append hm.toList_size? ih

theorem alike_placeAll (hR : Congruence R) (h : List.Forall₂ (Alike R) ms ms')
    {origins origins' : List Point} (horigins : List.Forall₂ (Point.Alike R) origins origins') :
    List.Forall₂ (Option.Rel (Bounds.Alike R)) (placeAll origins ms) (placeAll origins' ms') := by
  induction h generalizing origins origins' with
  | nil => exact .nil
  | @cons m m' _ _ hm _ ih =>
      have hfirst : (origins.headD .origin).Alike R (origins'.headD .origin) := by
        cases horigins with
        | nil => exact Point.alike_refl hR _
        | cons hpoint _ => exact hpoint
      rw [placeAll_cons, placeAll_cons, ← hm.toList_size?.length_eq]
      exact List.rel_append (hm.place hfirst) (ih (List.forall₂_drop _ horigins))

/-- Containers of related content around related children, with kinds that fit their number. -/
theorem alike_of (hR : Congruence R) {kind kind' : ComponentKind} (modifiers : Modifiers)
    {room room' : Room} {content content' : Size}
    (hkind : kind.SpacesAlike R (sizes ms).length kind') (hroom : room.Alike R room')
    (hcontent : content.Alike R content') (h : List.Forall₂ (Alike R) ms ms') :
    (Measured.of kind modifiers room content ms).Alike R
      (Measured.of kind' modifiers room' content' ms') := by
  have hresolve (d : Dimension) {space space' : Space} {x x' : Single} (padding : Single)
      (hspace : Option.Rel R space space') (hx : R x x') :
      R (d.resolve space (x.extent + padding)) (d.resolve space' (x'.extent + padding)) :=
    d.alike_resolve hR hspace (hR.add (hR.extent hx) (hR.refl _))
  have hsize : (Modifiers.outerSize modifiers room content).Alike R
      (Modifiers.outerSize modifiers room' content') :=
    ⟨hresolve _ _ hroom.width hcontent.width, hresolve _ _ hroom.height hcontent.height⟩
  refine ⟨.some hsize, fun {origin origin'} horigin => ?_⟩
  have hbounds : Bounds.Alike R ⟨origin, Modifiers.outerSize modifiers room content⟩
      ⟨origin', Modifiers.outerSize modifiers room' content'⟩ := ⟨horigin, hsize⟩
  rw [Measured.of, Measured.of, place, place]
  exact .cons (.some hbounds) (alike_placeAll hR h
    (hkind.origins hR (Padding.alike_inside hR _ hbounds) (alike_sizes h)))

end Measured

/-! ## Measuring -/

namespace Component

variable {ctx : MeasureContext} {cs cs' : List Component}

/-- Two trees whose components have the same modifiers, and that are measured alike. -/
structure Alike (R : Single → Single → Prop) (ctx : MeasureContext) (c c' : Component) : Prop where
  decorations : c'.decorations = c.decorations
  measure : ∀ {room room' : Room}, room.Alike R room' →
    (c.measure ctx room).Alike R (c'.measure ctx room')

namespace Alike

variable {c c' : Component}

theorem size (h : c.Alike R ctx c') : c'.size = c.size := by
  rw [← length_decorations, h.decorations, length_decorations]

theorem modifiers (h : c.Alike R ctx c') : c'.modifiers = c.modifiers := by
  have hfirst := congrArg List.head? h.decorations
  obtain ⟨id, kind, modifiers, children⟩ := c
  obtain ⟨id', kind', modifiers', children'⟩ := c'
  rw [decorations_node, decorations_node] at hfirst
  exact Option.some.inj hfirst

end Alike

/-- The number of children that take part. -/
def flowCount (ctx : MeasureContext) (cs : List Component) : Nat := (cs.filter ctx.takesPart).length

theorem flowCount_pos {c : Component} (hc : c ∈ cs) (htakesPart : ctx.takesPart c = true) :
    0 < flowCount ctx cs :=
  List.length_pos_of_mem (List.mem_filter.2 ⟨hc, htakesPart⟩)

theorem length_sizes_measureEach (room? : Component → Option Room) (cs : List Component) :
    (Measured.sizes (measureEach ctx room? cs)).length =
      (cs.filter fun c => ctx.takesPart c && (room? c).isSome).length := by
  induction cs with
  | nil => rfl
  | cons c cs ih =>
      rw [measureEach, Measured.sizes_cons, List.length_append, ih, List.filter_cons]
      cases htakesPart : ctx.takesPart c with
      | false => exact Nat.zero_add _
      | true =>
          cases hroom : room? c with
          | none => exact Nat.zero_add _
          | some room =>
              obtain ⟨padding, size, children, hmeasure⟩ := exists_measure_eq ctx room c
              dsimp only
              rw [hmeasure]
              exact Nat.add_comm 1 _

theorem length_sizes_measureEach_some (roomOf : Component → Room) (cs : List Component) :
    (Measured.sizes (measureEach ctx (fun c => some (roomOf c)) cs)).length = flowCount ctx cs := by
  rw [length_sizes_measureEach, flowCount]
  simp only [Option.isSome_some, Bool.and_true]

/-- Every child that takes part is measured in the first round unless it fills the axis. -/
theorem length_rigidSizes_add (axis : Axis) (inner : Room) (cs : List Component) :
    (rigidSizes ctx axis inner cs).length + fillCount ctx axis cs = flowCount ctx cs := by
  have hrigid (c : Component) :
      (ctx.takesPart c && (rigidRoom? axis inner c).isSome) =
        (!c.fills axis && ctx.takesPart c) := by
    rw [rigidRoom?, Bool.and_comm]
    cases c.fills axis <;> rfl
  have hfilling (c : Component) :
      (ctx.takesPart c && c.fills axis) = (c.fills axis && ctx.takesPart c) := Bool.and_comm _ _
  rw [rigidSizes, length_sizes_measureEach, fillCount, flowCount, Nat.add_comm,
    List.length_eq_countP_add_countP (fun c => c.fills axis) (l := cs.filter ctx.takesPart),
    List.countP_eq_length_filter, List.countP_eq_length_filter, List.filter_filter,
    List.filter_filter]
  simp only [hrigid, hfilling, Bool.not_eq_true, Bool.decide_eq_false]

theorem length_fillingSizes (axis : Axis) (inner : Room) (share : Space) (cs : List Component) :
    (fillingSizes ctx axis inner share cs).length = fillCount ctx axis cs := by
  rw [fillingSizes, length_sizes_measureEach, fillCount]
  congr 2
  funext c
  rw [fillingRoom?]
  split
  · next hfills => rw [hfills]; rfl
  · next hfills => rw [Bool.eq_false_of_not_eq_true hfills]; rfl

/-- The rooms need to be related only for those children that take part. -/
theorem alike_measureEach (room? room?' : Component → Option Room)
    (h : List.Forall₂ (Alike R ctx) cs cs')
    (hroom : ∀ c c', c'.modifiers = c.modifiers → c ∈ cs → ctx.takesPart c = true →
      Option.Rel (Room.Alike R) (room? c) (room?' c')) :
    List.Forall₂ (Measured.Alike R) (measureEach ctx room? cs) (measureEach ctx room?' cs') := by
  induction h with
  | nil => exact .nil
  | @cons c c' cs cs' hc _ ih =>
      rw [measureEach, measureEach, takesPart_congr hc.modifiers, hc.size]
      refine .cons ?_
        (ih fun d d' hmodifiers hd => hroom d d' hmodifiers (List.mem_cons_of_mem _ hd))
      cases htakesPart : ctx.takesPart c with
      | false => exact Measured.alike_absent _
      | true =>
          have hrooms := hroom c c' hc.modifiers List.mem_cons_self htakesPart
          generalize room? c = room?, room?' c' = room?' at hrooms
          cases hrooms with
          | none => exact Measured.alike_absent _
          | some hrooms => exact hc.measure hrooms

theorem decorationsAll_eq (h : List.Forall₂ (Alike R ctx) cs cs') :
    decorationsAll cs' = decorationsAll cs := by
  induction h with
  | nil => rfl
  | cons hc _ ih => rw [decorationsAll_cons, decorationsAll_cons, hc.decorations, ih]

theorem fillCount_eq (axis : Axis) (h : List.Forall₂ (Alike R ctx) cs cs') :
    fillCount ctx axis cs' = fillCount ctx axis cs := by
  rw [fillCount, fillCount]
  induction h with
  | nil => rfl
  | cons hc _ ih =>
      rw [List.filter_cons, List.filter_cons, takesPart_congr hc.modifiers,
        fills_congr hc.modifiers]
      split
      · rw [List.length_cons, List.length_cons, ih]
      · exact ih

section Linear

variable (axis : Axis) {l l' : LinearLayout} {inner inner' : Room} {share share' : Space}

theorem alike_rigidSizes (h : List.Forall₂ (Alike R ctx) cs cs') (hinner : inner.Alike R inner') :
    List.Forall₂ (Size.Alike R) (rigidSizes ctx axis inner cs)
      (rigidSizes ctx axis inner' cs') := by
  refine Measured.alike_sizes (alike_measureEach _ _ h fun c c' hmodifiers _ _ => ?_)
  rw [rigidRoom?, rigidRoom?, fills_congr hmodifiers]
  split
  · exact .none
  · exact .some (axis.alike_room .none (axis.alike_crossSpace hinner))

theorem alike_fillingSizes (h : List.Forall₂ (Alike R ctx) cs cs') (hinner : inner.Alike R inner')
    (hshare : 0 < flowCount ctx cs → Option.Rel R share share') :
    List.Forall₂ (Size.Alike R) (fillingSizes ctx axis inner share cs)
      (fillingSizes ctx axis inner' share' cs') := by
  refine Measured.alike_sizes (alike_measureEach _ _ h fun c c' hmodifiers hc htakesPart => ?_)
  rw [fillingRoom?, fillingRoom?, fills_congr hmodifiers]
  split
  · exact .some (axis.alike_room (hshare (flowCount_pos hc htakesPart))
      (axis.alike_crossSpace hinner))
  · exact .none

/-- Without a child that takes part the shares may differ by what no gap at all comes to. -/
theorem alike_linearShare (hR : Congruence R) (hl : l.SpacesAlike R (flowCount ctx cs) l')
    (h : List.Forall₂ (Alike R ctx) cs cs') (hinner : inner.Alike R inner')
    (hcount : 0 < flowCount ctx cs) :
    Option.Rel R (linearShare ctx axis l inner cs) (linearShare ctx axis l' inner' cs') := by
  have hrigid := alike_rigidSizes axis h hinner
  rw [linearShare, linearShare, ← hrigid.length_eq, fillCount_eq axis h, length_rigidSizes_add]
  exact hl.share hR hcount (axis.alike_mainSpace hinner)
    (hR.total (axis.alike_map_main hrigid)) _

theorem alike_measureLinear (hR : Congruence R) {kind kind' : ComponentKind} (modifiers : Modifiers)
    {room room' : Room} (hkind : kind.SpacesAlike R (flowCount ctx cs) kind')
    (hl : l.SpacesAlike R (flowCount ctx cs) l') (h : List.Forall₂ (Alike R ctx) cs cs')
    (hroom : room.Alike R room') :
    (measureLinear ctx room kind modifiers axis l cs).Alike R
      (measureLinear ctx room' kind' modifiers axis l' cs') := by
  have hinner := Modifiers.alike_innerRoom hR modifiers hroom
  have hshare := alike_linearShare axis hR hl h hinner
  have hsizes := List.rel_append (alike_rigidSizes axis h hinner)
    (alike_fillingSizes axis h hinner hshare)
  -- the children that were measured are those that take part, so the spacings fit their number
  refine Measured.alike_of hR modifiers ?_ hroom (LinearLayout.SpacesAlike.contentSize ?_ hR hsizes)
    (alike_measureEach _ _ h fun c c' hmodifiers hc htakesPart => ?_)
  · rwa [length_sizes_measureEach_some]
  · rwa [List.length_append, length_fillingSizes, length_rigidSizes_add]
  · rw [linearRoom, linearRoom, fills_congr hmodifiers]
    refine .some (axis.alike_room ?_ (axis.alike_crossSpace hinner))
    split
    · exact hshare (flowCount_pos hc htakesPart)
    · exact .none

end Linear

/-- Children that are measured alike make containers that are measured alike. -/
theorem alike_node (hR : Congruence R) (id : ComponentId) {kind kind' : ComponentKind}
    (modifiers : Modifiers) (hkind : kind.SpacesAlike R (flowCount ctx cs) kind')
    (h : List.Forall₂ (Alike R ctx) cs cs') :
    (node id kind modifiers cs).Alike R ctx (node id kind' modifiers cs') where
  decorations := by rw [decorations_node, decorations_node, decorationsAll_eq h]
  measure := by
    intro room room' hroom
    cases hkind with
    | row hl =>
        rw [measure_row, measure_row]
        exact alike_measureLinear .horizontal hR modifiers (.row hl) hl h hroom
    | column hl =>
        rw [measure_column, measure_column]
        exact alike_measureLinear .vertical hR modifiers (.column hl) hl h hroom
    | box layout =>
        have hinner := Modifiers.alike_innerRoom hR modifiers hroom
        have hmeasured := alike_measureEach (fun _ => some (Modifiers.innerRoom modifiers room))
          (fun _ => some (Modifiers.innerRoom modifiers room')) h fun _ _ _ _ _ => .some hinner
        rw [measure_box, measure_box]
        exact Measured.alike_of hR modifiers (.box layout) hroom
          (BoxLayout.alike_contentSize hR (Measured.alike_sizes hmeasured)) hmeasured
    | text content =>
        rw [measure_text, measure_text]
        exact Measured.alike_of hR modifiers (.text content) hroom (Size.alike_refl hR _) .nil
    | spacer =>
        rw [measure_spacer, measure_spacer]
        exact Measured.alike_of hR modifiers .spacer hroom (Size.alike_refl hR _) .nil

mutual

/-- A component in related rooms comes to related sizes. -/
theorem alike_refl (hR : Congruence R) : (c : Component) → c.Alike R ctx c
  | node id kind modifiers children =>
      alike_node hR id modifiers (kind.spacesAlike_refl hR _) (alike_refl_all hR children)

theorem alike_refl_all (hR : Congruence R) :
    (cs : List Component) → List.Forall₂ (Alike R ctx) cs cs
  | [] => .nil
  | c :: rest => .cons (alike_refl hR c) (alike_refl_all hR rest)

end

end Component

/-! ## Passes -/

/-- The bounds are related, and everything else is the same. -/
structure Placement.Alike (R : Single → Single → Prop) (p p' : Placement) : Prop where
  bounds : p.bounds.Alike R p'.bounds
  visibility : p'.visibility = p.visibility
  phase : p'.phase = p.phase
  dirty : p'.dirty = p.dirty

/-- The layouts have entries for equally many components, and these are alike. -/
def Layout.Alike (R : Single → Single → Prop) (l l' : Layout) : Prop :=
  List.Forall₂ (Placement.Alike R) l.placements l'.placements

namespace Placement

theorem alike_next (hR : Congruence R) (p : Placement) (visibility : Visibility)
    {bounds bounds' : Option Bounds} (h : Option.Rel (Bounds.Alike R) bounds bounds') :
    (p.next visibility bounds).Alike R (p.next visibility bounds') := by
  cases h with
  | none => exact ⟨Bounds.alike_refl hR _, rfl, rfl, rfl⟩
  | some h => exact ⟨h, rfl, rfl, rfl⟩

theorem alike_zipWith_next (hR : Congruence R) (ps : List Placement)
    (visibilities : List Visibility) {bounds bounds' : List (Option Bounds)}
    (h : List.Forall₂ (Option.Rel (Bounds.Alike R)) bounds bounds') :
    List.Forall₂ (Placement.Alike R)
      (List.zipWith (fun p f => p.next f.1 f.2) ps (visibilities.zip bounds))
      (List.zipWith (fun p f => p.next f.1 f.2) ps (visibilities.zip bounds')) := by
  induction h generalizing ps visibilities with
  | nil =>
      rw [List.zip_nil_right, List.zipWith_nil_right]
      exact .nil
  | cons hb _ ih =>
      cases visibilities with
      | nil =>
          rw [List.zip_nil_left, List.zip_nil_left, List.zipWith_nil_right]
          exact .nil
      | cons visibility visibilities =>
          cases ps with
          | nil => exact .nil
          | cons p ps => exact .cons (alike_next hR p visibility hb) (ih ps visibilities)

end Placement

theorem ComponentTree.alike_bounds (hR : Congruence R) {t t' : ComponentTree} {ctx : MeasureContext}
    (h : t.root.Alike R ctx t'.root) (viewport : Size) :
    List.Forall₂ (Option.Rel (Bounds.Alike R)) (t.bounds ctx viewport)
      (t'.bounds ctx viewport) := by
  rw [bounds, bounds, Component.takesPart_congr h.modifiers]
  split
  · exact (h.measure (Room.alike_refl hR _)).place (Point.alike_refl hR _)
  · rw [size, size, h.size]
    exact (Measured.alike_absent t.root.size).place (Point.alike_refl hR .origin)

theorem Bounds.eq_of_alike {b b' : Bounds} (h : b.Alike Eq b') : b = b' :=
  congrArg₂ Bounds.mk (congrArg₂ Point.mk h.origin.x h.origin.y)
    (congrArg₂ Size.mk h.size.width h.size.height)

theorem Placement.eq_of_alike {p p' : Placement} (h : p.Alike Eq p') : p = p' := by
  obtain ⟨hbounds, hvisibility, hphase, hdirty⟩ := h
  cases p
  cases p'
  rw [Placement.mk.injEq]
  exact ⟨Bounds.eq_of_alike hbounds, hvisibility.symm, hphase.symm, hdirty.symm⟩

theorem Layout.eq_of_alike {l l' : Layout} (h : l.Alike Eq l') : l = l' := by
  have hplacements := h.imp fun _ _ => Placement.eq_of_alike
  rw [List.forall₂_eq_eq_eq] at hplacements
  exact congrArg Layout.mk hplacements

/-- A pass over trees that are measured alike leaves layouts that are alike. -/
theorem Layout.alike_compute (hR : Congruence R) {t t' : ComponentTree} {ctx : MeasureContext}
    (h : t.root.Alike R ctx t'.root) (viewport : Size) (l : Layout) :
    (l.compute t ctx viewport).Alike R (l.compute t' ctx viewport) := by
  have hmap (t : ComponentTree) :
      t.nodes.map (fun n => Modifiers.resolvedVisibility ctx.store n.modifiers) =
        t.root.decorations.map (Modifiers.resolvedVisibility ctx.store) := by
    rw [Component.decorations, ← Component.map_unlinked_flatten none 0, List.map_map, List.map_map]
    rfl
  have hsize : t'.size = t.size := h.size
  dsimp only [Layout.Alike, compute]
  rw [hmap, hmap, h.decorations, hsize]
  exact Placement.alike_zipWith_next hR _ _ (ComponentTree.alike_bounds hR h viewport)

end Panel
