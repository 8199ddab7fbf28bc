import Panel.Proofs.Component.Pruned
import Panel.Proofs.Layout.Extent

/-!
# Components that take no part

A component that takes no part has no size, uses no origin and counts for nothing among its
siblings.  So everything around it is measured and placed as in the tree without it.
-/

namespace Panel

namespace Measured

/-! ## Lists of measured trees -/

theorem sizes_append (ms ns : List Measured) : sizes (ms ++ ns) = sizes ms ++ sizes ns :=
  List.filterMap_append

theorem sizes_cons (m : Measured) (ms : List Measured) :
    sizes (m :: ms) = m.size?.toList ++ sizes ms := by
  cases m <;> rfl

theorem placeAll_append (origins : List Point) (ms ns : List Measured) :
    placeAll origins (ms ++ ns) =
      placeAll origins ms ++ placeAll (origins.drop (sizes ms).length) ns := by
  induction ms generalizing origins with
  | nil => rfl
  | cons m ms ih =>
      rw [List.cons_append, placeAll_cons, placeAll_cons, ih, sizes_cons, List.length_append,
        List.drop_drop, List.append_assoc]

/-! ## Absent parts -/

/-- But for an absent part of `n` components, the first of which has number `i` in `m`, the trees
are placed alike. -/
structure Omits (n i : Nat) (m m' : Measured) : Prop where
  size : m'.size? = m.size?
  place : ∀ origin, Cut (List.replicate n none) i (m.place origin) (m'.place origin)

/-- But for an absent part of `n` components, the first of which has number `i` in `ms`, the trees
are placed alike. -/
structure OmitsAll (n i : Nat) (ms ms' : List Measured) : Prop where
  sizes : sizes ms' = sizes ms
  place : ∀ origins, Cut (List.replicate n none) i (placeAll origins ms) (placeAll origins ms')

variable {n i : Nat} {m m' : Measured} {ms ms' front back : List Measured}

theorem omits_absent {kept : Nat} (h : i ≤ kept) :
    Omits n i (absent (kept + n)) (absent kept) where
  size := rfl
  place := by
    intro origin
    rw [place, place]
    exact Cut.replicate none h

theorem omitsAll_absent : OmitsAll n (countAll front) (front ++ absent n :: back) (front ++ back)
    where
  sizes := by rw [sizes_append, sizes_append]; rfl
  place := by
    intro origins
    rw [placeAll_append, placeAll_append, placeAll_cons, place]
    exact ⟨placeAll origins front, _, (List.append_assoc _ _ _).symm, rfl, length_placeAll _ _⟩

theorem Omits.among (h : Omits n i m m') :
    OmitsAll n (countAll front + i) (front ++ m :: back) (front ++ m' :: back) where
  sizes := by rw [sizes_append, sizes_append, sizes_cons, sizes_cons, h.size]
  place := by
    intro origins
    have hcut := (h.place ((origins.drop (Measured.sizes front).length).headD .origin)).append
      (placeAll origins front)
      (placeAll ((origins.drop (Measured.sizes front).length).drop m.size?.toList.length) back)
    rw [length_placeAll] at hcut
    rw [placeAll_append, placeAll_append, placeAll_cons, placeAll_cons, h.size]
    rwa [List.append_assoc, List.append_assoc] at hcut

theorem OmitsAll.of (h : OmitsAll n i ms ms') (kind : ComponentKind) (modifiers : Modifiers)
    (room : Room) (content : Size) :
    Omits n (1 + i) (.of kind modifiers room content ms) (.of kind modifiers room content ms') where
  size := rfl
  place := by
    intro origin
    rw [Measured.of, Measured.of, Measured.place, Measured.place, h.sizes]
    exact (h.place _).cons _

end Measured

namespace Component

open Measured

variable {ctx : MeasureContext} {n i : Nat} {cs ds : List Component}

theorem measureEach_append (room? : Component → Option Room) (front back : List Component) :
    measureEach ctx room? (front ++ back) =
      measureEach ctx room? front ++ measureEach ctx room? back := by
  induction front with
  | nil => rfl
  | cons c front ih => rw [List.cons_append, measureEach, measureEach, ih, List.cons_append]

theorem takesPart_congr {c d : Component} (h : c.modifiers = d.modifiers) :
    ctx.takesPart c = ctx.takesPart d := by
  rw [MeasureContext.takesPart, h, MeasureContext.takesPart]

theorem fills_congr {axis : Axis} {c d : Component} (h : c.modifiers = d.modifiers) :
    c.fills axis = d.fills axis := by
  cases axis with
  | horizontal => rw [fills, fills, h]
  | vertical => rw [fills, fills, h]

/-- However much room the children of a container are given, as long as that depends on their
modifiers alone, they are placed alike but for an absent part. -/
structure ChildrenOmit (ctx : MeasureContext) (n i : Nat) (cs ds : List Component) : Prop where
  fillCount : ∀ axis, fillCount ctx axis ds = fillCount ctx axis cs
  measureEach : ∀ room? : Component → Option Room,
    (∀ c d : Component, c.modifiers = d.modifiers → room? c = room? d) →
      OmitsAll n i (measureEach ctx room? cs) (measureEach ctx room? ds)

namespace ChildrenOmit

variable {room : Room} {kind : ComponentKind} {modifiers : Modifiers} {axis : Axis}
  {layout : LinearLayout}

theorem sameRounds (h : ChildrenOmit ctx n i cs ds) : SameRounds ctx ctx cs ds where
  rigidSizes := by
    intro axis inner
    apply (h.measureEach (rigidRoom? axis inner) fun c d hmodifiers => ?_).sizes
    rw [rigidRoom?, rigidRoom?, fills_congr hmodifiers]
  fillingSizes := by
    intro axis inner share
    apply (h.measureEach (fillingRoom? axis inner share) fun c d hmodifiers => ?_).sizes
    rw [fillingRoom?, fillingRoom?, fills_congr hmodifiers]
  fillCount := h.fillCount

theorem measureLinear (h : ChildrenOmit ctx n i cs ds) :
    Omits n (1 + i) (measureLinear ctx room kind modifiers axis layout cs)
      (measureLinear ctx room kind modifiers axis layout ds) := by
  have hchildren (share : Space) := h.measureEach
    (fun c => some (linearRoom axis (Modifiers.innerRoom modifiers room) share c))
    fun c d hmodifiers => by rw [linearRoom, linearRoom, fills_congr hmodifiers]
  rw [h.sameRounds.measureLinear_eq, Component.measureLinear]
  exact (hchildren _).of kind modifiers room _

/-- A container with an absent part is measured and placed as without it. -/
theorem measure (h : ChildrenOmit ctx n i cs ds) (id : ComponentId)
    (hkind : kind.isContainer = true) :
    Omits n (1 + i) ((node id kind modifiers cs).measure ctx room)
      ((node id kind modifiers ds).measure ctx room) := by
  cases kind with
  | row layout =>
      rw [measure_row, measure_row]
      exact h.measureLinear
  | column layout =>
      rw [measure_column, measure_column]
      exact h.measureLinear
  | box layout =>
      have hchildren := h.measureEach (fun _ => some (Modifiers.innerRoom modifiers room))
        fun _ _ _ => rfl
      rw [measure_box, measure_box]
      dsimp only
      rw [hchildren.sizes]
      exact hchildren.of _ _ _ _
  | text content => contradiction
  | spacer => contradiction

end ChildrenOmit

theorem countAll_measureEach {room? : Component → Option Room} (h : ∀ c ∈ cs, c.Proper) :
    countAll (measureEach ctx room? cs) = sizeAll cs :=
  countAll_eq_sizeAll (map_count_measureEach (fun c hc => (h c hc).count_measure) room?)

/-- A tree with a component that takes no part is measured and placed as without it. -/
theorem Pruned.omits_measure {c d e : Component} (h : Pruned c i d e) (hd : d.Proper)
    (habsent : ctx.takesPart c = false) (room : Room) :
    Omits c.size i (d.measure ctx room) (e.measure ctx room) := by
  induction h generalizing room with
  | @child id kind modifiers front back =>
      obtain ⟨hkind, -, hfront, -⟩ := hd.parts
      have hchildren : ChildrenOmit ctx c.size (sizeAll front) (front ++ c :: back)
          (front ++ back) := by
        constructor
        · intro axis
          simp [fillCount, habsent]
        · intro room? _
          rw [measureEach_append, measureEach_append, measureEach, habsent,
            ← countAll_measureEach hfront]
          exact omitsAll_absent
      exact hchildren.measure id hkind
  | @deeper i d e id kind modifiers front back h ih =>
      -- the child that loses a part keeps its modifiers, and these alone decide on its room
      obtain ⟨hkind, hchild, hfront, -⟩ := hd.parts
      have hchildren : ChildrenOmit ctx c.size (sizeAll front + i) (front ++ d :: back)
          (front ++ e :: back) := by
        constructor
        · intro axis
          simp only [fillCount, List.filter_append, List.filter_cons,
            takesPart_congr h.modifiers_eq, fills_congr h.modifiers_eq, List.length_append]
          split <;> rfl
        · intro room? hroom
          rw [measureEach_append, measureEach_append, measureEach, measureEach,
            takesPart_congr h.modifiers_eq, hroom e d h.modifiers_eq,
            ← countAll_measureEach hfront]
          apply Omits.among
          have habsent' : Omits c.size i (absent d.size) (absent e.size) := by
            rw [h.size_eq]
            exact omits_absent h.le_size
          cases ctx.takesPart d with
          | false => exact habsent'
          | true =>
              cases room? d with
              | none => exact habsent'
              | some room => exact ih hchild room
      rw [Nat.add_assoc]
      exact hchildren.measure id hkind

end Component

/-- Around a component that is gone, everything has the bounds that it has in the tree without
it. -/
theorem ComponentTree.cut_bounds {t t' : ComponentTree} {ctx : MeasureContext} {viewport : Size}
    {c : Component} {i : Nat} (h : Component.Pruned c i t.root t'.root) (hproper : t.root.Proper)
    (habsent : ctx.takesPart c = false) :
    Cut (List.replicate c.size none) i (t.bounds ctx viewport) (t'.bounds ctx viewport) := by
  rw [bounds, bounds, Component.takesPart_congr h.modifiers_eq]
  split
  · exact (h.omits_measure hproper habsent _).place .origin
  · rw [size, size, h.size_eq]
    exact Cut.replicate none h.le_size

end Panel
