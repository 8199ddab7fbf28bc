import Panel.Proofs.Layout.Extent

/-!
# Transposition

To transpose is to exchange the horizontal and the vertical direction everywhere: rows become
columns, widths heights, and the left edge the top one.  Nothing in the layout prefers one direction
to the other, so that the layout of a transposed tree is the transposed layout of the tree.
-/

namespace Panel

/-! ## What is transposed -/

/-- The other direction. -/
def Axis.transposed : Axis → Axis
  | horizontal => vertical
  | vertical => horizontal

/-- The point mirrored at the diagonal. -/
def Point.transposed (p : Point) : Point := ⟨p.y, p.x⟩

/-- The extents exchanged. -/
def Size.transposed (s : Size) : Size := ⟨s.height, s.width⟩

/-- The rectangle mirrored at the diagonal. -/
def Bounds.transposed (b : Bounds) : Bounds := ⟨b.origin.transposed, b.size.transposed⟩

def Room.transposed (r : Room) : Room := ⟨r.height, r.width⟩

/-- Left and top exchanged, and right and bottom. -/
def Padding.transposed (p : Padding) : Padding := ⟨p.top, p.left, p.bottom, p.right⟩

/-- Width and height exchanged, and the edges of a padding. -/
def Modifier.transposed : Modifier → Modifier
  | width d => height d
  | height d => width d
  | padding p => padding p.transposed
  | m => m

/-- The alignments exchanged. -/
def BoxLayout.transposed (l : BoxLayout) : BoxLayout := ⟨l.vertical, l.horizontal⟩

/-- Row and column exchanged, and the alignments of a box. -/
def ComponentKind.transposed : ComponentKind → ComponentKind
  | row layout => column layout
  | column layout => row layout
  | box layout => box layout.transposed
  | kind => kind

namespace Component

mutual

/-- The tree with every component transposed. -/
def transposed : Component → Component
  | node id kind modifiers children =>
    node id kind.transposed (modifiers.map Modifier.transposed) (transposedAll children)

def transposedAll : List Component → List Component
  | [] => []
  | c :: rest => c.transposed :: transposedAll rest

end

end Component

def ComponentTree.transposed (t : ComponentTree) : ComponentTree := ⟨t.root.transposed⟩

/-- Texts are measured with width and height exchanged. -/
def MeasureContext.transposed (ctx : MeasureContext) : MeasureContext :=
  ⟨ctx.store, fun text style => (ctx.textMeasure text style).transposed⟩

def Placement.transposed (p : Placement) : Placement := { p with bounds := p.bounds.transposed }

def Layout.transposed (l : Layout) : Layout := ⟨l.placements.map Placement.transposed⟩

namespace Measured

mutual

def transposed : Measured → Measured
  | absent count => absent count
  | present kind padding size children =>
    present kind.transposed padding.transposed size.transposed (transposedAll children)

def transposedAll : List Measured → List Measured
  | [] => []
  | m :: rest => m.transposed :: transposedAll rest

end

end Measured

/-! ## Axes -/

namespace Axis

variable (axis : Axis)

@[simp] theorem main_transposed (s : Size) : axis.transposed.main s.transposed = axis.main s := by
  cases axis <;> rfl

@[simp] theorem cross_transposed (s : Size) :
    axis.transposed.cross s.transposed = axis.cross s := by
  cases axis <;> rfl

@[simp] theorem size_transposed (along across : Single) :
    axis.transposed.size along across = (axis.size along across).transposed := by
  cases axis <;> rfl

@[simp] theorem mainOf_transposed (p : Point) :
    axis.transposed.mainOf p.transposed = axis.mainOf p := by
  cases axis <;> rfl

@[simp] theorem crossOf_transposed (p : Point) :
    axis.transposed.crossOf p.transposed = axis.crossOf p := by
  cases axis <;> rfl

@[simp] theorem point_transposed (along across : Single) :
    axis.transposed.point along across = (axis.point along across).transposed := by
  cases axis <;> rfl

@[simp] theorem mainSpace_transposed (r : Room) :
    axis.transposed.mainSpace r.transposed = axis.mainSpace r := by
  cases axis <;> rfl

@[simp] theorem crossSpace_transposed (r : Room) :
    axis.transposed.crossSpace r.transposed = axis.crossSpace r := by
  cases axis <;> rfl

@[simp] theorem room_transposed (along across : Space) :
    axis.transposed.room along across = (axis.room along across).transposed := by
  cases axis <;> rfl

end Axis

/-! ## Modifiers -/

namespace Modifiers

theorem findSome?_transposed {α : Type} {f g : Modifier → Option α} (ms : Modifiers)
    (h : ∀ m : Modifier, f m.transposed = g m) :
    (ms.map Modifier.transposed).reverse.findSome? f = ms.reverse.findSome? g := by
  rw [← List.map_reverse, List.findSome?_map]
  exact congrArg (ms.reverse.findSome? ·) (funext h)

theorem width_transposed (ms : Modifiers) : width (ms.map Modifier.transposed) = height ms := by
  rw [width, findSome?_transposed ms (g := Modifier.height?), height]
  intro m
  cases m <;> rfl

theorem height_transposed (ms : Modifiers) : height (ms.map Modifier.transposed) = width ms := by
  rw [height, findSome?_transposed ms (g := Modifier.width?), width]
  intro m
  cases m <;> rfl

theorem visibility_transposed (ms : Modifiers) :
    visibility (ms.map Modifier.transposed) = visibility ms := by
  rw [visibility, findSome?_transposed ms (g := Modifier.visibility?), visibility]
  intro m
  cases m <;> rfl

theorem padding_transposed (ms : Modifiers) :
    padding (ms.map Modifier.transposed) = (padding ms).transposed := by
  have hpadding (m : Modifier) :
      m.transposed.padding? = m.padding?.map Padding.transposed := by
    cases m <;> rfl
  have hpaddings : (ms.map Modifier.transposed).filterMap Modifier.padding? =
      (ms.filterMap Modifier.padding?).map Padding.transposed := by
    rw [List.filterMap_map, List.map_filterMap]
    exact congrArg (List.filterMap · ms) (funext hpadding)
  rw [padding, hpaddings, List.foldl_map, padding]
  change List.foldl (fun p (q : Padding) => p.add q.transposed) (Padding.transposed .none) _ = _
  apply List.foldl_hom Padding.transposed
  intro p q
  rfl

theorem innerRoom_transposed (ms : Modifiers) (room : Room) :
    innerRoom (ms.map Modifier.transposed) room.transposed = (innerRoom ms room).transposed := by
  rw [innerRoom, width_transposed, height_transposed, padding_transposed]
  rfl

end Modifiers

/-! ## Measuring -/

namespace Measured

variable {kind : ComponentKind} {modifiers : Modifiers} {room : Room} {content : Size}
  {children : List Measured}

theorem of_transposed :
    of kind.transposed (modifiers.map Modifier.transposed) room.transposed content.transposed
        (transposedAll children) =
      (of kind modifiers room content children).transposed := by
  rw [of, Modifiers.width_transposed, Modifiers.height_transposed, Modifiers.padding_transposed,
    of, transposed]
  rfl

theorem sizes_transposedAll (ms : List Measured) :
    sizes (transposedAll ms) = (sizes ms).map Size.transposed := by
  induction ms with
  | nil => rfl
  | cons m ms ih =>
      cases m with
      | absent count => exact ih
      | present kind padding size children => exact congrArg (size.transposed :: ·) ih

end Measured

theorem LinearLayout.contentSize_transposed (layout : LinearLayout) (axis : Axis)
    (sizes : List Size) :
    layout.contentSize axis.transposed (sizes.map Size.transposed) =
      (layout.contentSize axis sizes).transposed := by
  have hmain : (sizes.map Size.transposed).map axis.transposed.main = sizes.map axis.main := by
    rw [List.map_map]
    exact congrArg (sizes.map ·) (funext axis.main_transposed)
  have hcross : (sizes.map Size.transposed).map axis.transposed.cross = sizes.map axis.cross := by
    rw [List.map_map]
    exact congrArg (sizes.map ·) (funext axis.cross_transposed)
  rw [contentSize, hmain, hcross, List.isEmpty_map, List.length_map, contentSize]
  split
  · rfl
  · exact axis.size_transposed _ _

theorem BoxLayout.contentSize_transposed (sizes : List Size) :
    contentSize (sizes.map Size.transposed) = (contentSize sizes).transposed := by
  rw [contentSize, List.map_map, List.map_map]
  rfl

namespace Component

variable {ctx : MeasureContext} {room : Room} {axis : Axis} {inner : Room} {cs : List Component}

theorem transposedAll_eq_map (cs : List Component) : transposedAll cs = cs.map transposed := by
  induction cs with
  | nil => rfl
  | cons c cs ih => rw [transposedAll, ih, List.map_cons]

mutual

theorem size_transposed : (c : Component) → c.transposed.size = c.size
  | node _ _ _ children => by rw [transposed, size, size, sizeAll_transposedAll children]

theorem sizeAll_transposedAll : (cs : List Component) → sizeAll (transposedAll cs) = sizeAll cs
  | [] => rfl
  | c :: rest => by
      rw [transposedAll, sizeAll, sizeAll, size_transposed c, sizeAll_transposedAll rest]

end

theorem modifiers_transposed (c : Component) :
    c.transposed.modifiers = c.modifiers.map Modifier.transposed := by
  obtain ⟨id, kind, modifiers, children⟩ := c
  rfl

theorem takesPart_transposed (c : Component) :
    ctx.transposed.takesPart c.transposed = ctx.takesPart c := by
  rw [MeasureContext.takesPart, modifiers_transposed, Modifiers.resolvedVisibility,
    Modifiers.visibility_transposed]
  rfl

theorem fills_transposed (c : Component) : c.transposed.fills axis.transposed = c.fills axis := by
  cases axis with
  | horizontal =>
      simp only [Axis.transposed, fills, modifiers_transposed, Modifiers.height_transposed]
  | vertical =>
      simp only [Axis.transposed, fills, modifiers_transposed, Modifiers.width_transposed]

theorem fillCount_transposed :
    fillCount ctx.transposed axis.transposed (transposedAll cs) = fillCount ctx axis cs := by
  rw [fillCount, transposedAll_eq_map, List.filter_map, List.length_map, fillCount]
  simp only [Function.comp_def, takesPart_transposed, fills_transposed]

/-- What measuring does to some components in some room, it does to them transposed in the same
room transposed. -/
def MeasuresTransposed (ctx : MeasureContext) (cs : List Component) : Prop :=
  ∀ room? room'? : Component → Option Room,
    (∀ c, room'? c.transposed = (room? c).map Room.transposed) →
      measureEach ctx.transposed room'? (transposedAll cs) =
        Measured.transposedAll (measureEach ctx room? cs)

theorem MeasuresTransposed.rigidSizes_transposed (h : MeasuresTransposed ctx cs) :
    rigidSizes ctx.transposed axis.transposed inner.transposed (transposedAll cs) =
      (rigidSizes ctx axis inner cs).map Size.transposed := by
  rw [rigidSizes, h (rigidRoom? axis inner), Measured.sizes_transposedAll, rigidSizes]
  intro c
  rw [rigidRoom?, fills_transposed, rigidRoom?]
  split
  · rfl
  · rw [axis.crossSpace_transposed, axis.room_transposed, Option.map_some]

theorem MeasuresTransposed.fillingSizes_transposed (h : MeasuresTransposed ctx cs)
    {share : Space} :
    fillingSizes ctx.transposed axis.transposed inner.transposed share (transposedAll cs) =
      (fillingSizes ctx axis inner share cs).map Size.transposed := by
  rw [fillingSizes, h (fillingRoom? axis inner share), Measured.sizes_transposedAll, fillingSizes]
  intro c
  rw [fillingRoom?, fills_transposed, fillingRoom?]
  split
  · rw [axis.crossSpace_transposed, axis.room_transposed, Option.map_some]
  · rfl

theorem MeasuresTransposed.linearShare_transposed (h : MeasuresTransposed ctx cs)
    {layout : LinearLayout} :
    linearShare ctx.transposed axis.transposed layout inner.transposed (transposedAll cs) =
      linearShare ctx axis layout inner cs := by
  rw [linearShare, h.rigidSizes_transposed, fillCount_transposed, axis.mainSpace_transposed,
    List.length_map, List.map_map, linearShare]
  simp only [Function.comp_def, axis.main_transposed]

theorem MeasuresTransposed.measureLinear_transposed (h : MeasuresTransposed ctx cs)
    {kind : ComponentKind} {modifiers : Modifiers} {layout : LinearLayout} :
    measureLinear ctx.transposed room.transposed kind.transposed
        (modifiers.map Modifier.transposed) axis.transposed layout (transposedAll cs) =
      (measureLinear ctx room kind modifiers axis layout cs).transposed := by
  have hchildren (inner : Room) (share : Space) :
      measureEach ctx.transposed
          (fun c => some (linearRoom axis.transposed inner.transposed share c))
          (transposedAll cs) =
        Measured.transposedAll
          (measureEach ctx (fun c => some (linearRoom axis inner share c)) cs) := by
    apply h
    intro c
    rw [linearRoom, fills_transposed, axis.crossSpace_transposed, axis.room_transposed]
    rfl
  rw [measureLinear, Modifiers.innerRoom_transposed, h.linearShare_transposed,
    h.rigidSizes_transposed, h.fillingSizes_transposed, ← List.map_append,
    LinearLayout.contentSize_transposed, hchildren, Measured.of_transposed, measureLinear]

mutual

theorem measure_transposed (ctx : MeasureContext) (room : Room) : (c : Component) →
    c.transposed.measure ctx.transposed room.transposed = (c.measure ctx room).transposed
  | node id kind modifiers children => by
      have hchildren := measureEach_transposed ctx children
      -- rows and columns have one measure, which takes the axis
      cases kind with
      | row layout =>
          rw [measure_row, ← hchildren.measureLinear_transposed]
          exact measure_column
      | column layout =>
          rw [measure_column, ← hchildren.measureLinear_transposed]
          exact measure_row
      | box layout =>
          have hmeasured := hchildren (fun _ => some (Modifiers.innerRoom modifiers room))
            (fun _ => some (Modifiers.innerRoom modifiers room).transposed) fun _ => rfl
          rw [measure_box, ← Measured.of_transposed, ← hmeasured,
            ← BoxLayout.contentSize_transposed, ← Measured.sizes_transposedAll, ← hmeasured,
            ← Modifiers.innerRoom_transposed]
          exact measure_box
      | text content =>
          rw [measure_text, ← Measured.of_transposed]
          exact measure_text
      | spacer =>
          rw [measure_spacer, ← Measured.of_transposed]
          exact measure_spacer

theorem measureEach_transposed (ctx : MeasureContext) : (cs : List Component) →
    MeasuresTransposed ctx cs
  | [], _, _, _ => rfl
  | c :: rest, room?, room'?, hrooms => by
      rw [transposedAll, measureEach, measureEach_transposed ctx rest room? room'? hrooms,
        takesPart_transposed, hrooms, measureEach, size_transposed, Measured.transposedAll]
      congr 1
      cases ctx.takesPart c with
      | false => rfl
      | true =>
          cases room? c with
          | none => rfl
          | some room => exact measure_transposed ctx room c

end

/-! ## Nodes -/

end Component

def Node.transposed (n : Node) : Node :=
  ⟨n.id, n.kind.transposed, n.modifiers.map Modifier.transposed, n.parent, n.children⟩

namespace Component

theorem numbering_transposedAll (cs : List Component) (index : Nat) :
    numbering index (transposedAll cs) = numbering index cs := by
  induction cs generalizing index with
  | nil => rfl
  | cons c cs ih => rw [transposedAll, numbering, numbering, size_transposed, ih]

mutual

theorem flatten_transposed (parent : Option Nat) (index : Nat) : (c : Component) →
    c.transposed.flatten parent index = (c.flatten parent index).map Node.transposed
  | node id kind modifiers children => by
      rw [transposed, flatten, flatten, numbering_transposedAll,
        flattenAll_transposed index (index + 1) children, List.map_cons]
      rfl

theorem flattenAll_transposed (parent index : Nat) : (cs : List Component) →
    flattenAll parent index (transposedAll cs) =
      (flattenAll parent index cs).map Node.transposed
  | [] => rfl
  | c :: rest => by
      rw [transposedAll, flattenAll, flattenAll, flatten_transposed (some parent) index c,
        size_transposed, flattenAll_transposed parent (index + c.size) rest, List.map_append]

end

end Component

/-! ## Placing -/

namespace LinearLayout

variable (layout : LinearLayout) (axis : Axis)

theorem originsFrom_transposed (origin : Point) (crossSpace gap : Single) (sizes : List Size)
    (cursor : Single) :
    layout.originsFrom axis.transposed origin.transposed crossSpace gap cursor
        (sizes.map Size.transposed) =
      (layout.originsFrom axis origin crossSpace gap cursor sizes).map Point.transposed := by
  induction sizes generalizing cursor with
  | nil => rfl
  | cons size sizes ih =>
      rw [List.map_cons, originsFrom, originsFrom, List.map_cons]
      simp only [axis.mainOf_transposed, axis.crossOf_transposed, axis.main_transposed,
        axis.cross_transposed, axis.point_transposed, ih]

theorem origins_transposed (inner : Bounds) (sizes : List Size) :
    layout.origins axis.transposed inner.transposed (sizes.map Size.transposed) =
      (layout.origins axis inner sizes).map Point.transposed := by
  simp only [origins, Bounds.transposed, List.map_map, List.length_map, axis.main_transposed,
    axis.cross_transposed, Function.comp_def, originsFrom_transposed]

end LinearLayout

theorem ComponentKind.origins_transposed (kind : ComponentKind) (inner : Bounds)
    (sizes : List Size) :
    kind.transposed.origins inner.transposed (sizes.map Size.transposed) =
      (kind.origins inner sizes).map Point.transposed := by
  cases kind with
  | row layout => exact layout.origins_transposed .horizontal inner sizes
  | column layout => exact layout.origins_transposed .vertical inner sizes
  | box layout =>
      rw [ComponentKind.transposed, origins, origins, List.map_map, List.map_map]
      rfl
  | text content => rfl
  | spacer => rfl

theorem Padding.inside_transposed (p : Padding) (bounds : Bounds) :
    p.transposed.inside bounds.transposed = (p.inside bounds).transposed := rfl

namespace Measured

mutual

theorem place_transposed (origin : Point) : (m : Measured) →
    m.transposed.place origin.transposed = (m.place origin).map (Option.map Bounds.transposed)
  | absent count => by
      rw [transposed, place, place, List.map_replicate]
      rfl
  | present kind padding size children => by
      have hinside := padding.inside_transposed ⟨origin, size⟩
      have horigins := kind.origins_transposed (padding.inside ⟨origin, size⟩) (sizes children)
      rw [transposed, place, place, sizes_transposedAll]
      exact congrArg (some (Bounds.transposed ⟨origin, size⟩) :: ·) (by
        rw [← placeAll_transposed, ← horigins, ← hinside]
        rfl)

theorem placeAll_transposed (origins : List Point) : (ms : List Measured) →
    placeAll (origins.map Point.transposed) (transposedAll ms) =
      (placeAll origins ms).map (Option.map Bounds.transposed)
  | [] => rfl
  | m :: rest => by
      have hhead : (origins.map Point.transposed).headD .origin =
          (origins.headD .origin).transposed := by
        cases origins <;> rfl
      have hcount : m.transposed.size?.toList.length = m.size?.toList.length := by
        cases m <;> rfl
      rw [transposedAll, placeAll_cons, placeAll_cons, hhead, hcount, place_transposed _ m,
        ← List.map_drop, placeAll_transposed _ rest, List.map_append]

end

end Measured

/-! ## Layouts -/

namespace ComponentTree

theorem size_transposed (t : ComponentTree) : t.transposed.size = t.size :=
  Component.size_transposed t.root

theorem nodes_transposed (t : ComponentTree) :
    t.transposed.nodes = t.nodes.map Node.transposed :=
  Component.flatten_transposed none 0 t.root

theorem bounds_transposed (t : ComponentTree) (ctx : MeasureContext) (viewport : Size) :
    t.transposed.bounds ctx.transposed viewport.transposed =
      (t.bounds ctx viewport).map (Option.map Bounds.transposed) := by
  rw [bounds, bounds, size_transposed, transposed, Component.takesPart_transposed]
  split
  · rw [← Measured.place_transposed, ← Component.measure_transposed]
    rfl
  · rw [List.map_replicate]
    rfl

end ComponentTree

theorem Placement.next_transposed (p : Placement) (visibility : Visibility)
    (bounds : Option Bounds) :
    p.transposed.next visibility (bounds.map Bounds.transposed) =
      (p.next visibility bounds).transposed := by
  cases bounds <;> rfl

namespace Layout

theorem fresh_transposed (count : Nat) : (fresh count).transposed = fresh count := by
  rw [transposed, fresh, List.map_replicate]
  rfl

/-- A pass over a transposed tree gives the transposed layout. -/
theorem compute_transposed (l : Layout) (t : ComponentTree) (ctx : MeasureContext)
    (viewport : Size) :
    l.transposed.compute t.transposed ctx.transposed viewport.transposed =
      (l.compute t ctx viewport).transposed := by
  -- a layout of another size is given up on both sides
  have hbefore : (if l.transposed.size = t.size then l.transposed else fresh t.size) =
      (if l.size = t.size then l else fresh t.size).transposed := by
    have hsize : l.transposed.size = l.size := List.length_map _
    rw [hsize]
    split
    · rfl
    · exact (fresh_transposed t.size).symm
  have hvisibilities :
      t.transposed.nodes.map
          (fun n => Modifiers.resolvedVisibility ctx.transposed.store n.modifiers) =
        t.nodes.map fun n => Modifiers.resolvedVisibility ctx.store n.modifiers := by
    rw [t.nodes_transposed, List.map_map]
    refine congrArg (t.nodes.map ·) (funext fun n => ?_)
    exact congrArg (VisibilitySource.resolve ctx.store) (Modifiers.visibility_transposed n.modifiers)
  rw [compute, t.size_transposed, hbefore, t.bounds_transposed, compute, transposed, transposed]
  simp only [hvisibilities, List.zip_map_right, List.zipWith_map, List.map_zipWith, Prod.map_fst,
    Prod.map_snd, id_eq, Placement.next_transposed]

/-- From the start, a pass over a transposed tree gives every component the same phase and
visibility, and its bounds with coordinates and extents exchanged. -/
theorem fresh_compute_transposed (t : ComponentTree) (ctx : MeasureContext) (viewport : Size)
    (i : Nat) :
    let l := (fresh t.size).compute t ctx viewport
    let l' := (fresh t.transposed.size).compute t.transposed ctx.transposed viewport.transposed
    l'.size = l.size ∧ l'.phase i = l.phase i ∧ l'.visibility i = l.visibility i ∧
      (l'.bounds i).origin.x = (l.bounds i).origin.y ∧
      (l'.bounds i).origin.y = (l.bounds i).origin.x ∧
      (l'.bounds i).size.width = (l.bounds i).size.height ∧
      (l'.bounds i).size.height = (l.bounds i).size.width := by
  intro l l'
  have hlayout : l' = l.transposed := by
    rw [← compute_transposed, fresh_transposed, ← t.size_transposed]
  have hplacement : l'.placements[i]? = l.placements[i]?.map Placement.transposed := by
    rw [hlayout, transposed, List.getElem?_map]
  have hbounds : l'.bounds i = (l.bounds i).transposed := by
    rw [bounds, bounds, hplacement]
    cases l.placements[i]? <;> rfl
  refine ⟨?_, ?_, ?_, ?_⟩
  · rw [hlayout]
    exact List.length_map _
  · rw [phase, phase, hplacement]
    cases l.placements[i]? <;> rfl
  · rw [visibility, visibility, hplacement]
    cases l.placements[i]? <;> rfl
  · rw [hbounds]
    exact ⟨rfl, rfl, rfl, rfl⟩

end Layout

end Panel
