import Panel.Layout.InPlace
import Panel.Proofs.Layout.Absent
import Panel.Proofs.Layout.Overlay

/-!
# Passes in place

A pass that writes over the layout before makes of it what a pass makes that keeps its sizes and
origins to itself, whatever the layout before holds.  The sizes that placing looks up have all been
written by the same pass: measuring writes the sizes of exactly those components that placing
reaches.
-/

namespace Panel

/-! ## What is written -/

namespace LayoutPass

/-- Write down the sizes of some components, which are reached. -/
def withSizes (s : LayoutPass) (sizes : Nat → Option Size) : LayoutPass :=
  ⟨⟨overlay Placement.measured sizes s.layout.placements⟩,
    overlay (fun _ _ => true) sizes s.reached⟩

/-- Write down the origins of some components. -/
def withOrigins (s : LayoutPass) (origins : Nat → Option Point) : LayoutPass :=
  ⟨⟨overlay Placement.placed origins s.layout.placements⟩, s.reached⟩

variable {s : LayoutPass} {sizes sizes' : Nat → Option Size}
  {origins origins' : Nat → Option Point}

theorem withSizes_none (s : LayoutPass) : s.withSizes (fun _ => none) = s := by
  rw [withSizes, overlay_none, overlay_none]

theorem withOrigins_none (s : LayoutPass) : s.withOrigins (fun _ => none) = s := by
  rw [withOrigins, overlay_none]

theorem withSizes_withSizes :
    (s.withSizes sizes).withSizes sizes' = s.withSizes fun i => (sizes' i).or (sizes i) := by
  rw [withSizes, withSizes, overlay_overlay Placement.measured fun _ _ _ => rfl,
    overlay_overlay (fun _ _ => true) fun _ _ _ => rfl, withSizes]

theorem withOrigins_withOrigins :
    (s.withOrigins origins).withOrigins origins' =
      s.withOrigins fun i => (origins' i).or (origins i) := by
  rw [withOrigins, withOrigins, overlay_overlay Placement.placed fun _ _ _ => rfl, withOrigins]

theorem writeSize_eq (s : LayoutPass) (index : Nat) (size : Size) :
    s.writeSize index size = s.withSizes fun i => if i = index then some size else none := by
  rw [writeSize, List.set_eq_modify, modify_eq_overlay Placement.measured,
    modify_eq_overlay (fun _ _ => true) index size, withSizes]

theorem writeOrigin_eq (s : LayoutPass) (index : Nat) (origin : Point) :
    s.writeOrigin index origin =
      s.withOrigins fun i => if i = index then some origin else none := by
  rw [writeOrigin, modify_eq_overlay Placement.placed, withOrigins]

theorem visibility_withSizes : (s.withSizes sizes).layout.visibility = s.layout.visibility := by
  funext i
  rw [Layout.visibility, Layout.visibility, withSizes,
    map_getElem?_overlay Placement.measured fun _ _ => rfl]

theorem visibility_withOrigins :
    (s.withOrigins origins).layout.visibility = s.layout.visibility := by
  funext i
  rw [Layout.visibility, Layout.visibility, withOrigins,
    map_getElem?_overlay Placement.placed fun _ _ => rfl]

theorem size_withOrigins : (s.withOrigins origins).size = s.size := by
  have hsize (l : Layout) (i : Nat) :
      (l.bounds i).size = (l.placements[i]?.map (·.bounds.size)).getD .empty := by
    rw [Layout.bounds]
    cases l.placements[i]? <;> rfl
  funext i
  rw [size, size, hsize, hsize, withOrigins,
    map_getElem?_overlay Placement.placed fun _ _ => rfl]

end LayoutPass

/-! ## What is looked up -/

namespace Measured

mutual

/-- The sizes of all components of a measured tree, by number. -/
def extents : Measured → List (Option Size)
  | absent count => List.replicate count none
  | present _ _ size children => some size :: extentsAll children

/-- The sizes of all components of some measured trees, by number. -/
def extentsAll : List Measured → List (Option Size)
  | [] => []
  | m :: rest => m.extents ++ extentsAll rest

end

mutual

/-- Placing keeps sizes. -/
theorem map_size_place (origin : Point) :
    (m : Measured) → (m.place origin).map (Option.map (·.size)) = m.extents
  | absent count => by rw [place, extents, List.map_replicate]; rfl
  | present kind padding size children => by
      rw [place, extents, List.map_cons, map_size_placeAll _ children]
      rfl

theorem map_size_placeAll (origins : List Point) :
    (ms : List Measured) → (placeAll origins ms).map (Option.map (·.size)) = extentsAll ms
  | [] => rfl
  | m :: rest => by
      rw [placeAll_cons, List.map_append, map_size_place _ m, map_size_placeAll _ rest, extentsAll]

end

theorem length_extents (m : Measured) : m.extents.length = m.count := by
  rw [← map_size_place .origin m, List.length_map, length_place]

end Measured

namespace Component

variable {ctx : MeasureContext}

/-- Whether the components of a tree show, by number. -/
def visibilities (ctx : MeasureContext) (c : Component) : List (Option Visibility) :=
  c.unlinked.map fun n => some (Modifiers.resolvedVisibility ctx.store n.modifiers)

/-- Whether the components of some trees show, by number. -/
def visibilitiesAll (ctx : MeasureContext) (cs : List Component) : List (Option Visibility) :=
  (unlinkedAll cs).map fun n => some (Modifiers.resolvedVisibility ctx.store n.modifiers)

variable {look : Nat → Visibility} {index : Nat} {c : Component} {cs : List Component}

theorem reads_visibilities_node {id : ComponentId} {kind : ComponentKind} {modifiers : Modifiers} :
    Reads look index ((node id kind modifiers cs).visibilities ctx) ↔
      look index = Modifiers.resolvedVisibility ctx.store modifiers ∧
        Reads look (index + 1) (visibilitiesAll ctx cs) := by
  rw [visibilities, unlinked, List.map_cons, reads_cons_some, visibilitiesAll]

theorem reads_visibilitiesAll_cons :
    Reads look index (visibilitiesAll ctx (c :: cs)) ↔
      Reads look index (c.visibilities ctx) ∧
        Reads look (index + c.size) (visibilitiesAll ctx cs) := by
  rw [visibilitiesAll, unlinkedAll, List.map_append, reads_append, List.length_map,
    length_unlinked, visibilities, visibilitiesAll]

/-- A component that is measured if it takes part and is given room. -/
def measureIf (ctx : MeasureContext) (room? : Option Room) (c : Component) : Measured :=
  match ctx.takesPart c, room? with
  | true, some room => c.measure ctx room
  | _, _ => .absent c.size

theorem measureEach_cons (room? : Component → Option Room) :
    measureEach ctx room? (c :: cs) = c.measureIf ctx (room? c) :: measureEach ctx room? cs := by
  rw [measureEach]
  rfl

theorem Proper.count_measureIf (h : c.Proper) (room? : Option Room) :
    (c.measureIf ctx room?).count = c.size := by
  unfold measureIf
  split
  · exact h.count_measure _
  · rfl

theorem measureIf_none (c : Component) : c.measureIf ctx none = .absent c.size := by
  unfold measureIf
  split
  · contradiction
  · rfl

/-- What some trees say by number, the first of which stands by itself. -/
theorem Proper.entryAt_extentsAll (h : c.Proper) (room? : Component → Option Room) (i : Nat) :
    entryAt index (Measured.extentsAll (measureEach ctx room? (c :: cs))) i =
      (entryAt (index + c.size) (Measured.extentsAll (measureEach ctx room? cs)) i).or
        (entryAt index (c.measureIf ctx (room? c)).extents i) := by
  rw [measureEach_cons, Measured.extentsAll, entryAt_append, Measured.length_extents,
    h.count_measureIf]

/-- Two rounds over the same components, none of which is given room in both, find what one round
finds. -/
theorem entryAt_extentsAll_or (hcs : ∀ c ∈ cs, c.Proper) {first? second? : Component → Option Room}
    (hrounds : ∀ c, first? c = none ∨ second? c = none) (i : Nat) :
    (entryAt index (Measured.extentsAll (measureEach ctx second? cs)) i).or
        (entryAt index (Measured.extentsAll (measureEach ctx first? cs)) i) =
      entryAt index (Measured.extentsAll
        (measureEach ctx (fun c => (first? c).or (second? c)) cs)) i := by
  induction cs generalizing index with
  | nil =>
      simp only [measureEach, Measured.extentsAll, entryAt_nil, Option.or_none]
  | cons c cs ih =>
      rw [List.forall_mem_cons] at hcs
      rw [hcs.1.entryAt_extentsAll, hcs.1.entryAt_extentsAll, hcs.1.entryAt_extentsAll, ← ih hcs.2]
      -- the components after the first say nothing of its numbers, nor does it of theirs
      have hfirst (hi : i < index + c.size) (room? : Component → Option Room) :
          entryAt (index + c.size) (Measured.extentsAll (measureEach ctx room? cs)) i = none :=
        entryAt_of_lt hi
      have hpast (hi : ¬ i < index + c.size) (room? : Option Room) :
          entryAt index (c.measureIf ctx room?).extents i = none := by
        apply entryAt_of_length_le
        rw [Measured.length_extents, hcs.1.count_measureIf]
        exact Nat.not_lt.1 hi
      by_cases hi : i < index + c.size
      · simp only [hfirst hi, Option.none_or]
        rcases hrounds c with hnone | hnone
        · rw [hnone, Option.none_or, measureIf_none, Measured.extents, entryAt_replicate_none,
            Option.or_none]
        · rw [hnone, Option.or_none, measureIf_none, Measured.extents, entryAt_replicate_none,
            Option.none_or]
      · simp only [hpast hi, Option.or_none]

end Component

namespace LayoutPass

open Component (visibilities visibilitiesAll)

variable {ctx : MeasureContext} {s : LayoutPass} {index : Nat} {c : Component}
  {cs : List Component}

theorem takesPart_eq (h : Reads s.layout.visibility index (c.visibilities ctx)) :
    s.takesPart index = ctx.takesPart c := by
  obtain ⟨id, kind, modifiers, children⟩ := c
  rw [takesPart, (Component.reads_visibilities_node.1 h).1, MeasureContext.takesPart]
  rfl

theorem fillCount_eq {axis : Axis}
    (h : Reads s.layout.visibility index (visibilitiesAll ctx cs)) :
    s.fillCount axis index cs = Component.fillCount ctx axis cs := by
  induction cs generalizing index with
  | nil => rfl
  | cons c cs ih =>
      obtain ⟨hfirst, hrest⟩ := Component.reads_visibilitiesAll_cons.1 h
      have hih := ih hrest
      rw [fillCount, Component.fillCount] at hih ⊢
      rw [Component.numbering, List.zip_cons_cons, List.filter_cons, List.filter_cons,
        takesPart_eq hfirst]
      split
      · rw [List.length_cons, List.length_cons, hih]
      · exact hih

/-! ## Measuring -/

/-- Measuring a component in place gives its size and writes down the sizes of everything in it. -/
def Measures (ctx : MeasureContext) (c : Component) : Prop :=
  ∀ (room : Room) (index : Nat) (s : LayoutPass),
    Reads s.layout.visibility index (c.visibilities ctx) →
      (c.measure ctx room).size? = some (s.measure ctx room index c).1 ∧
        (s.measure ctx room index c).2 = s.withSizes (entryAt index (c.measure ctx room).extents)

theorem measureEach_cons (hc : Measures ctx c) (room? : Component → Option Room)
    (h : Reads s.layout.visibility index (c.visibilities ctx)) :
    s.measureEach ctx room? index (c :: cs) =
      let others := (s.withSizes (entryAt index (c.measureIf ctx (room? c)).extents)).measureEach
        ctx room? (index + c.size) cs
      ((c.measureIf ctx (room? c)).size?.toList ++ others.1, others.2) := by
  have habsent : s.withSizes (entryAt index (Measured.absent c.size).extents) = s := by
    rw [Measured.extents, entryAt_replicate_none, withSizes_none]
  unfold Component.measureIf
  rw [measureEach, takesPart_eq h]
  cases ctx.takesPart c with
  | false => rw [habsent]; rfl
  | true =>
      cases room? c with
      | none => rw [habsent]; rfl
      | some room =>
          obtain ⟨hsize, hstate⟩ := hc room index s h
          dsimp only
          rw [hsize, ← hstate]

theorem measureEach_eq (hproper : ∀ c ∈ cs, c.Proper) (hcs : ∀ c ∈ cs, Measures ctx c)
    (room? : Component → Option Room)
    (h : Reads s.layout.visibility index (visibilitiesAll ctx cs)) :
    s.measureEach ctx room? index cs =
      (Measured.sizes (Component.measureEach ctx room? cs),
        s.withSizes
          (entryAt index (Measured.extentsAll (Component.measureEach ctx room? cs)))) := by
  induction cs generalizing s index with
  | nil =>
      rw [measureEach, Component.measureEach, Measured.extentsAll, entryAt_nil, withSizes_none]
      rfl
  | cons c cs ih =>
      rw [List.forall_mem_cons] at hproper hcs
      obtain ⟨hfirst, hrest⟩ := Component.reads_visibilitiesAll_cons.1 h
      rw [measureEach_cons hcs.1 room? hfirst, ih hproper.2 hcs.2 (by rwa [visibility_withSizes]),
        withSizes_withSizes, ← funext (hproper.1.entryAt_extentsAll room?),
        Component.measureEach_cons, Measured.sizes_cons]

variable {room : Room} {axis : Axis} {layout : LinearLayout} {inner : Room}

/-- The two rounds of a row or column. -/
theorem measure_rounds (hproper : ∀ c ∈ cs, c.Proper) (hcs : ∀ c ∈ cs, Measures ctx c)
    (h : Reads s.layout.visibility index (visibilitiesAll ctx cs)) :
    let rigid := s.measureEach ctx (Component.rigidRoom? axis inner) index cs
    let share := layout.share (axis.mainSpace inner) (Single.total (rigid.1.map axis.main))
      (rigid.1.length + s.fillCount axis index cs) (s.fillCount axis index cs)
    let filling := rigid.2.measureEach ctx (Component.fillingRoom? axis inner share) index cs
    let share' := Component.linearShare ctx axis layout inner cs
    (layout.contentSize axis (rigid.1 ++ filling.1), filling.2) =
      (layout.contentSize axis (Component.rigidSizes ctx axis inner cs ++
          Component.fillingSizes ctx axis inner share' cs),
        s.withSizes (entryAt index (Measured.extentsAll (Component.measureEach ctx
          (fun c => some (Component.linearRoom axis inner share' c)) cs)))) := by
  intro rigid share filling share'
  have hrigid := measureEach_eq hproper hcs (Component.rigidRoom? axis inner) h
  have hshare : share = share' := by
    dsimp only [share, rigid]
    rw [hrigid, fillCount_eq h]
    rfl
  have hstart : Reads rigid.2.layout.visibility index (visibilitiesAll ctx cs) := by
    dsimp only [rigid]
    rwa [hrigid, visibility_withSizes]
  have hfilling := measureEach_eq hproper hcs (Component.fillingRoom? axis inner share') hstart
  -- no component is measured in both rounds, so that the second one writes nothing over
  have hrounds (c : Component) : Component.rigidRoom? axis inner c = none ∨
      Component.fillingRoom? axis inner share' c = none := by
    rw [Component.rigidRoom?, Component.fillingRoom?]
    by_cases hfills : c.fills axis = true
    · exact .inl (if_pos hfills)
    · exact .inr (if_neg hfills)
  dsimp only [filling, rigid] at hfilling ⊢
  rw [hshare, hfilling, hrigid, withSizes_withSizes,
    funext (Component.entryAt_extentsAll_or hproper hrounds)]
  simp only [Component.rigidRoom?_or_fillingRoom?]
  rfl

/-- A component is written down after its content. -/
theorem measures_of {kind : ComponentKind} {modifiers : Modifiers} {content : Size}
    {ms : List Measured} {measured : Size × LayoutPass}
    (h : measured = (content, s.withSizes (entryAt (index + 1) (Measured.extentsAll ms)))) :
    (Measured.of kind modifiers room content ms).size? =
        some (Modifiers.outerSize modifiers room measured.1) ∧
      measured.2.writeSize index (Modifiers.outerSize modifiers room measured.1) =
        s.withSizes (entryAt index (Measured.of kind modifiers room content ms).extents) := by
  subst h
  refine ⟨rfl, ?_⟩
  rw [writeSize_eq, withSizes_withSizes, Measured.of, Measured.extents]
  congr 1
  funext i
  rw [entryAt_cons]
  by_cases hi : i = index
  · rw [if_pos hi, if_pos hi]
    rfl
  · rw [if_neg hi, if_neg hi, Option.none_or]

theorem measures (h : c.Proper) : Measures ctx c := by
  induction h with
  | @container id kind modifiers children hkind hchildren ih =>
      intro room index s h
      have hvisibilities := (Component.reads_visibilities_node.1 h).2
      cases kind with
      | row layout =>
          rw [Component.measure_row, measure]
          exact measures_of (measure_rounds hchildren ih hvisibilities)
      | column layout =>
          rw [Component.measure_column, measure]
          exact measures_of (measure_rounds hchildren ih hvisibilities)
      | box layout =>
          rw [Component.measure_box, measure]
          apply measures_of
          rw [measureEach_eq hchildren ih _ hvisibilities]
      | text content => contradiction
      | spacer => contradiction
  | @leaf id kind modifiers hkind =>
      intro room index s h
      have hnothing : s = s.withSizes (entryAt (index + 1) (Measured.extentsAll [])) := by
        rw [Measured.extentsAll, entryAt_nil, withSizes_none]
      cases kind with
      | text content =>
          rw [Component.measure_text, measure]
          exact measures_of (congrArg (Prod.mk _) hnothing)
      | spacer =>
          rw [Component.measure_spacer, measure]
          exact measures_of (congrArg (Prod.mk _) hnothing)
      | _ => contradiction

/-! ## Placing -/

/-- The origins of consecutive children, each of which says where the next one starts. -/
def originsBy (advance : Single → Size → Point × Single) : Single → List Size → List Point
  | _, [] => []
  | cursor, size :: rest =>
    (advance cursor size).1 :: originsBy advance (advance cursor size).2 rest

/-- The origins of all components of some trees, by number. -/
def originsOf (bounds : List (Option Bounds)) : List (Option Point) :=
  bounds.map (Option.map (·.origin))

theorem originsOf_nil : originsOf [] = [] := rfl

theorem originsOf_append (front back : List (Option Bounds)) :
    originsOf (front ++ back) = originsOf front ++ originsOf back := List.map_append

theorem originsOf_replicate_none (n : Nat) :
    originsOf (List.replicate n none) = List.replicate n none := List.map_replicate

theorem length_originsOf (bounds : List (Option Bounds)) :
    (originsOf bounds).length = bounds.length := List.length_map _

/-- Placing a component in place writes down the origins of everything in it, if the sizes that it
looks up are those that were measured. -/
def Places (ctx : MeasureContext) (c : Component) : Prop :=
  ∀ (room : Room) (index : Nat) (origin : Point) (s : LayoutPass),
    Reads s.layout.visibility index (c.visibilities ctx) →
      Reads s.size index (c.measure ctx room).extents →
        s.place index origin c =
          s.withOrigins (entryAt index (originsOf ((c.measure ctx room).place origin)))

theorem originsBy_advance (layout : LinearLayout) (axis : Axis) (bounds : Bounds) (gap : Single)
    (sizes : List Size) (cursor : Single) :
    originsBy (layout.advance axis bounds gap) cursor sizes =
      layout.originsFrom axis bounds.origin (axis.cross bounds.size) gap cursor sizes := by
  induction sizes generalizing cursor with
  | nil => rfl
  | cons size sizes ih =>
      rw [originsBy, LinearLayout.originsFrom, ih]
      rfl

theorem originsBy_box (layout : BoxLayout) (bounds : Bounds) (sizes : List Size) (cursor : Single) :
    originsBy (fun cursor size => (layout.origin bounds size, cursor)) cursor sizes =
      sizes.map (layout.origin bounds) := by
  induction sizes with
  | nil => rfl
  | cons size sizes ih => rw [originsBy, List.map_cons, ih]

/-- A component that takes part is found with the size that was measured. -/
theorem measureIf_cases (room : Room)
    (hvisible : Reads s.layout.visibility index (c.visibilities ctx))
    (hsize : Reads s.size index (c.measureIf ctx (some room)).extents) :
    s.takesPart index = true ∧ c.measureIf ctx (some room) = c.measure ctx room ∧
        (c.measure ctx room).size? = some (s.size index) ∨
      s.takesPart index = false ∧ c.measureIf ctx (some room) = .absent c.size := by
  rw [takesPart_eq hvisible]
  unfold Component.measureIf at hsize ⊢
  cases htakesPart : ctx.takesPart c with
  | false => exact .inr ⟨rfl, rfl⟩
  | true =>
      rw [htakesPart] at hsize
      obtain ⟨padding, size, children, hmeasure⟩ := Component.exists_measure_eq ctx room c
      dsimp only at hsize ⊢
      rw [hmeasure, Measured.extents, reads_cons_some] at hsize
      refine .inl ⟨rfl, rfl, ?_⟩
      rw [hmeasure, hsize.1]
      rfl

variable {roomOf : Component → Room}

/-- What the first of some components says, and what the others say. -/
theorem reads_extentsAll_cons {look : Nat → Size} (hproper : c.Proper) :
    Reads look index
        (Measured.extentsAll (Component.measureEach ctx (fun c => some (roomOf c)) (c :: cs))) ↔
      Reads look index (c.measureIf ctx (some (roomOf c))).extents ∧
        Reads look (index + c.size)
          (Measured.extentsAll (Component.measureEach ctx (fun c => some (roomOf c)) cs)) := by
  rw [Component.measureEach_cons, Measured.extentsAll, reads_append, Measured.length_extents,
    hproper.count_measureIf]

theorem sizes_eq (hproper : ∀ c ∈ cs, c.Proper)
    (hvisible : Reads s.layout.visibility index (visibilitiesAll ctx cs))
    (hsizes : Reads s.size index
      (Measured.extentsAll (Component.measureEach ctx (fun c => some (roomOf c)) cs))) :
    s.sizes index cs =
      Measured.sizes (Component.measureEach ctx (fun c => some (roomOf c)) cs) := by
  induction cs generalizing index with
  | nil => rw [sizes, Component.numbering, Component.measureEach]; rfl
  | cons c cs ih =>
      rw [List.forall_mem_cons] at hproper
      obtain ⟨hfirst, hrest⟩ := Component.reads_visibilitiesAll_cons.1 hvisible
      obtain ⟨hsize, hothers⟩ := (reads_extentsAll_cons hproper.1).1 hsizes
      have hih := ih hproper.2 hrest hothers
      rw [sizes] at hih ⊢
      rw [Component.numbering, Component.measureEach_cons, Measured.sizes_cons, List.filter_cons]
      rcases measureIf_cases _ hfirst hsize with
        ⟨htakesPart, hmeasured, hfound⟩ | ⟨habsent, hmeasured⟩
      · rw [if_pos htakesPart, List.map_cons, hih, hmeasured, hfound]
        rfl
      · rw [habsent, if_neg Bool.false_ne_true, hih, hmeasured]
        rfl

theorem placeEach_eq (hproper : ∀ c ∈ cs, c.Proper) (hcs : ∀ c ∈ cs, Places ctx c)
    (advance : Single → Size → Point × Single) (cursor : Single)
    (hvisible : Reads s.layout.visibility index (visibilitiesAll ctx cs))
    (hsizes : Reads s.size index
      (Measured.extentsAll (Component.measureEach ctx (fun c => some (roomOf c)) cs))) :
    let ms := Component.measureEach ctx (fun c => some (roomOf c)) cs
    s.placeEach advance cursor index cs = s.withOrigins (entryAt index
      (originsOf (Measured.placeAll (originsBy advance cursor (Measured.sizes ms)) ms))) := by
  induction cs generalizing s index cursor with
  | nil =>
      dsimp only
      rw [placeEach, Component.measureEach, Measured.placeAll, originsOf_nil, entryAt_nil,
        withOrigins_none]
  | cons c cs ih =>
      rw [List.forall_mem_cons] at hproper hcs
      obtain ⟨hfirst, hrest⟩ := Component.reads_visibilitiesAll_cons.1 hvisible
      obtain ⟨hsize, hothers⟩ := (reads_extentsAll_cons hproper.1).1 hsizes
      have hentries (origin : Point) (bounds : List (Option Bounds)) :
          entryAt index (originsOf ((c.measureIf ctx (some (roomOf c))).place origin ++ bounds)) =
            fun i => (entryAt (index + c.size) (originsOf bounds) i).or
              (entryAt index (originsOf ((c.measureIf ctx (some (roomOf c))).place origin)) i) := by
        funext i
        rw [originsOf_append, entryAt_append, length_originsOf, Measured.length_place,
          hproper.1.count_measureIf]
      dsimp only
      rw [Component.measureEach_cons, Measured.placeAll_cons, hentries, Measured.sizes_cons,
        placeEach]
      rcases measureIf_cases _ hfirst hsize with
        ⟨htakesPart, hmeasured, hfound⟩ | ⟨habsent, hmeasured⟩
      · -- placing the first one leaves the sizes alone that placing the others looks up
        have hplace := hcs.1 (roomOf c) index (advance cursor (s.size index)).1 s hfirst
          (by rwa [hmeasured] at hsize)
        have hstate := ih hproper.2 hcs.2 (advance cursor (s.size index)).2
          (s := s.place index (advance cursor (s.size index)).1 c)
          (by rwa [hplace, visibility_withOrigins]) (by rwa [hplace, size_withOrigins])
        rw [if_pos htakesPart, hmeasured, hfound]
        dsimp only
        rw [hstate, hplace, withOrigins_withOrigins]
        rfl
      · rw [habsent, if_neg Bool.false_ne_true, ih hproper.2 hcs.2 _ hrest hothers, hmeasured,
          Measured.place, originsOf_replicate_none, entryAt_replicate_none]
        simp only [Option.or_none]
        rfl

theorem placeEach_linear (hproper : ∀ c ∈ cs, c.Proper) (hcs : ∀ c ∈ cs, Places ctx c)
    {layout : LinearLayout} {axis : Axis} {bounds : Bounds}
    (hvisible : Reads s.layout.visibility index (visibilitiesAll ctx cs))
    (hsizes : Reads s.size index
      (Measured.extentsAll (Component.measureEach ctx (fun c => some (roomOf c)) cs))) :
    let lead := layout.lead axis bounds (s.sizes index cs)
    let ms := Component.measureEach ctx (fun c => some (roomOf c)) cs
    s.placeEach (layout.advance axis bounds lead.2) lead.1 index cs = s.withOrigins (entryAt index
      (originsOf (Measured.placeAll (layout.origins axis bounds (Measured.sizes ms)) ms))) := by
  dsimp only
  rw [placeEach_eq hproper hcs _ _ hvisible hsizes, originsBy_advance,
    sizes_eq hproper hvisible hsizes]
  rfl

/-- A component is written down before its content. -/
theorem places_of {kind : ComponentKind} {modifiers : Modifiers} {room : Room} {content : Size}
    {ms : List Measured} {origin : Point} {placed : LayoutPass}
    (h : placed = (s.writeOrigin index origin).withOrigins (entryAt (index + 1) (originsOf
      (Measured.placeAll (kind.origins ((Modifiers.padding modifiers).inside
        ⟨origin, Modifiers.outerSize modifiers room content⟩) (Measured.sizes ms)) ms)))) :
    placed = s.withOrigins (entryAt index (originsOf
      ((Measured.of kind modifiers room content ms).place origin))) := by
  subst h
  rw [writeOrigin_eq, withOrigins_withOrigins]
  congr 1
  funext i
  rw [Measured.of, Measured.place, originsOf, originsOf, List.map_cons, entryAt_cons]
  by_cases hi : i = index
  · rw [if_pos hi, if_pos hi, entryAt_of_lt (by omega)]
    rfl
  · rw [if_neg hi, if_neg hi, Option.or_none]
    rfl

theorem size_writeOrigin (s : LayoutPass) (index : Nat) (origin : Point) :
    (s.writeOrigin index origin).size = s.size := by
  rw [writeOrigin_eq, size_withOrigins]

theorem visibility_writeOrigin (s : LayoutPass) (index : Nat) (origin : Point) :
    (s.writeOrigin index origin).layout.visibility = s.layout.visibility := by
  rw [writeOrigin_eq, visibility_withOrigins]

theorem places (h : c.Proper) : Places ctx c := by
  induction h with
  | @container id kind modifiers children hkind hchildren ih =>
      intro room index origin s hvisible hsizes
      have hvisibilities : Reads (s.writeOrigin index origin).layout.visibility (index + 1)
          (visibilitiesAll ctx children) := by
        rw [visibility_writeOrigin]
        exact (Component.reads_visibilities_node.1 hvisible).2
      rw [← size_writeOrigin s index origin] at hsizes
      cases kind with
      | row layout =>
          rw [Component.measure_row, Component.measureLinear] at hsizes ⊢
          obtain ⟨hsize, hothers⟩ := reads_cons_some.1 hsizes
          apply places_of
          rw [place]
          dsimp only
          rw [hsize, placeEach_linear hchildren ih hvisibilities hothers]
          rfl
      | column layout =>
          rw [Component.measure_column, Component.measureLinear] at hsizes ⊢
          obtain ⟨hsize, hothers⟩ := reads_cons_some.1 hsizes
          apply places_of
          rw [place]
          dsimp only
          rw [hsize, placeEach_linear hchildren ih hvisibilities hothers]
          rfl
      | box layout =>
          rw [Component.measure_box] at hsizes ⊢
          obtain ⟨hsize, hothers⟩ := reads_cons_some.1 hsizes
          apply places_of
          rw [place, hsize, placeEach_eq hchildren ih _ _ hvisibilities hothers, originsBy_box]
          rfl
      | text content => contradiction
      | spacer => contradiction
  | @leaf id kind modifiers hkind =>
      intro room index origin s hvisible hsizes
      have hnothing (s : LayoutPass) (origins : List Point) :
          s = s.withOrigins (entryAt (index + 1) (originsOf (Measured.placeAll origins []))) := by
        rw [Measured.placeAll, originsOf_nil, entryAt_nil, withOrigins_none]
      cases kind with
      | text content =>
          rw [Component.measure_text, place]
          exact places_of (hnothing _ _)
      | spacer =>
          rw [Component.measure_spacer, place]
          exact places_of (hnothing _ _)
      | _ => contradiction

/-! ## Passes -/

theorem size_start {visibilities : List Visibility} {l : Layout}
    (h : visibilities.length = l.size) : (start l visibilities).layout.size = l.size := by
  rw [start, Layout.size, List.length_zipWith, h, Layout.size, Nat.min_self]

theorem reads_visibility_start {visibilities : List Visibility} {l : Layout}
    (h : visibilities.length = l.size) :
    Reads (start l visibilities).layout.visibility 0 (visibilities.map some) := by
  intro k visibility hk
  rw [List.getElem?_map, Option.map_eq_some_iff] at hk
  obtain ⟨_, hk, ⟨⟩⟩ := hk
  have hlt : k < l.placements.length := Nat.lt_of_lt_of_eq (List.getElem?_eq_some_iff.1 hk).1 h
  rw [Nat.zero_add, Layout.visibility, start, List.getElem?_zipWith, List.getElem?_eq_getElem hlt,
    hk]
  rfl

theorem reads_size_withSizes {sizes : List (Option Size)} (h : sizes.length = s.layout.size) :
    Reads (s.withSizes (entryAt 0 sizes)).size 0 sizes := by
  intro k size hsize
  obtain ⟨hk, hsize⟩ := List.getElem?_eq_some_iff.1 hsize
  rw [Nat.zero_add, LayoutPass.size, Layout.bounds, withSizes, overlay, List.getElem?_mapIdx,
    entryAt_zero hk, hsize, List.getElem?_eq_getElem (Nat.lt_of_lt_of_eq hk h)]
  rfl

/-- All that a pass writes down. -/
theorem finish_eq {l : Layout} {visibilities : List Visibility} {bounds : List (Option Bounds)}
    (hvisibilities : visibilities.length = l.size) (hbounds : bounds.length = l.size) :
    (((start l visibilities).withSizes (entryAt 0 (bounds.map (Option.map (·.size))))).withOrigins
        (entryAt 0 (originsOf bounds))).finish =
      ⟨List.zipWith (fun p (found : Visibility × Option Bounds) => p.next found.1 found.2)
        l.placements (visibilities.zip bounds)⟩ := by
  rw [Layout.size] at hvisibilities hbounds
  rw [finish, withOrigins, withSizes, start]
  congr 1
  apply List.ext_getElem
  · simp [overlay, hvisibilities, hbounds]
  · intro i _ hi
    rw [List.length_zipWith, List.length_zip] at hi
    have hlt : i < bounds.length := by omega
    have hsize : entryAt 0 (bounds.map (Option.map (·.size))) i = bounds[i].map (·.size) := by
      rw [entryAt_zero (by rwa [List.length_map]), List.getElem_map]
    have horigin : entryAt 0 (originsOf bounds) i = bounds[i].map (·.origin) := by
      rw [entryAt_zero (by rwa [length_originsOf])]
      exact List.getElem_map _
    simp only [overlay, List.getElem_zipWith, List.getElem_mapIdx, List.getElem_replicate,
      List.getElem_zip, hsize, horigin]
    cases bounds[i] <;> rfl

end LayoutPass

namespace Layout

variable {t : ComponentTree} {ctx : MeasureContext} {viewport : Size}

/-- A pass that writes over a layout, whatever that holds, makes of it what a pass makes which looks
at it for nothing but what it does not reach. -/
theorem overwrite_eq_compute (hproper : t.root.Proper) (l : Layout) :
    l.overwrite t ctx viewport = l.compute t ctx viewport := by
  rw [overwrite, compute]
  have hsize := l.size_before t.size
  generalize (if l.size = t.size then l else fresh t.size) = before at hsize ⊢
  generalize hvisibilities : (t.nodes.map fun n =>
    Modifiers.resolvedVisibility ctx.store n.modifiers) = visibilities
  have hlength : visibilities.length = before.size := by
    rw [← hvisibilities, List.length_map, ComponentTree.length_nodes, hsize]
  have hvisible : Reads (LayoutPass.start before visibilities).layout.visibility 0
      (t.root.visibilities ctx) := by
    have hroot : t.root.visibilities ctx = visibilities.map some := by
      rw [Component.visibilities, ← Component.map_unlinked_flatten none 0, ← hvisibilities,
        List.map_map, List.map_map]
      rfl
    rw [hroot]
    exact LayoutPass.reads_visibility_start hlength
  rw [← LayoutPass.finish_eq hlength ((ComponentTree.length_bounds hproper).trans hsize.symm),
    LayoutPass.takesPart_eq hvisible, ComponentTree.bounds]
  by_cases htakesPart : ctx.takesPart t.root = true
  · have hmeasure := (LayoutPass.measures hproper (.ofViewport viewport) 0 _ hvisible).2
    have hextents : (t.root.measure ctx (.ofViewport viewport)).extents.length =
        (LayoutPass.start before visibilities).layout.size := by
      rw [Measured.length_extents, hproper.count_measure, LayoutPass.size_start hlength, hsize,
        ComponentTree.size]
    have hplace := LayoutPass.places hproper (.ofViewport viewport) 0 .origin
      (s := (LayoutPass.start before visibilities).withSizes
        (entryAt 0 (t.root.measure ctx (.ofViewport viewport)).extents))
      (by rwa [LayoutPass.visibility_withSizes]) (LayoutPass.reads_size_withSizes hextents)
    rw [if_pos htakesPart, if_pos htakesPart, hmeasure, hplace, Measured.map_size_place]
  · rw [if_neg htakesPart, if_neg htakesPart, LayoutPass.originsOf_replicate_none,
      List.map_replicate, Option.map_none, entryAt_replicate_none, entryAt_replicate_none,
      LayoutPass.withOrigins_none, LayoutPass.withSizes_none]

end Layout

end Panel
