import Panel.Proofs.Layout.Found
import Panel.Proofs.Layout.InPlace
import Panel.Proofs.Single.Extent

/-!
# What components are measured with

A component is measured once, in the room that its parent gives it.  Its size follows from that
room, from the size that its content comes to, and from its own modifiers.  `measurements` lists
rooms and contents by number; the limits of all rooms are extents.
-/

namespace Panel

/-- The room that a component is given, and the size that its content comes to there. -/
structure Measurement where
  room : Room
  content : Size
deriving DecidableEq, Repr

/-! ## Axes -/

namespace Axis

/-- The request along an axis. -/
def dimension : Axis → Modifiers → Dimension
  | horizontal, ms => Modifiers.width ms
  | vertical, ms => Modifiers.height ms

/-- The padding along an axis, on both sides together. -/
def padding : Axis → Modifiers → Single
  | horizontal, ms => (Modifiers.padding ms).horizontal
  | vertical, ms => (Modifiers.padding ms).vertical

theorem main_outerSize (axis : Axis) (modifiers : Modifiers) (room : Room) (content : Size) :
    axis.main (Modifiers.outerSize modifiers room content) =
      (axis.dimension modifiers).resolve (axis.mainSpace room)
        ((axis.main content).extent + axis.padding modifiers) := by
  cases axis <;> rfl

end Axis

namespace Room.Counts

variable {room : Room}

theorem mainSpace (h : room.Counts) (axis : Axis) : (axis.mainSpace room).Counts := by
  cases axis with
  | horizontal => exact h.width
  | vertical => exact h.height

theorem crossSpace (h : room.Counts) (axis : Axis) : (axis.crossSpace room).Counts := by
  cases axis with
  | horizontal => exact h.height
  | vertical => exact h.width

theorem axis_room {axis : Axis} {along across : Space} (halong : along.Counts)
    (hacross : across.Counts) : (axis.room along across).Counts := by
  cases axis with
  | horizontal => exact ⟨halong, hacross⟩
  | vertical => exact ⟨hacross, halong⟩

theorem innerRoom (modifiers : Modifiers) (room : Room) :
    (Modifiers.innerRoom modifiers room).Counts :=
  ⟨Dimension.counts_inner _ _ _, Dimension.counts_inner _ _ _⟩

end Room.Counts

/-! ## Measuring a component -/

namespace Component

/-- The content size of a row or column in its inner room. -/
def linearContent (ctx : MeasureContext) (axis : Axis) (layout : LinearLayout) (inner : Room)
    (cs : List Component) : Size :=
  layout.contentSize axis (rigidSizes ctx axis inner cs ++
    fillingSizes ctx axis inner (linearShare ctx axis layout inner cs) cs)

/-- The size that the content of a component comes to in some room. -/
def contentSize (ctx : MeasureContext) (room : Room) : Component → Size
  | node _ kind modifiers children =>
    let inner := Modifiers.innerRoom modifiers room
    match kind with
    | .row layout => linearContent ctx .horizontal layout inner children
    | .column layout => linearContent ctx .vertical layout inner children
    | .box _ =>
      BoxLayout.contentSize (Measured.sizes (measureEach ctx (fun _ => some inner) children))
    | .text content => ctx.textSize content
    | .spacer => .empty

/-- The room that a component in some room gives to a child. -/
def childRoom (ctx : MeasureContext) (room : Room) : Component → Component → Room
  | node _ kind modifiers children, child =>
    let inner := Modifiers.innerRoom modifiers room
    let linear (axis : Axis) (layout : LinearLayout) : Room :=
      linearRoom axis inner (linearShare ctx axis layout inner children) child
    match kind with
    | .row layout => linear .horizontal layout
    | .column layout => linear .vertical layout
    | _ => inner

mutual

/-- What the components of a tree in some room are measured with, by number.  Those that take no
part are not measured. -/
def measurements (ctx : MeasureContext) (room : Room) : Component → List (Option Measurement)
  | c@(node _ _ _ children) =>
    some ⟨room, c.contentSize ctx room⟩ :: measurementsEach ctx (c.childRoom ctx room) children

/-- What the components of some trees are measured with, by number, each tree in room of its
own. -/
def measurementsEach (ctx : MeasureContext) (roomOf : Component → Room) :
    List Component → List (Option Measurement)
  | [] => []
  | c :: rest =>
    (if ctx.takesPart c then c.measurements ctx (roomOf c) else List.replicate c.size none) ++
      measurementsEach ctx roomOf rest

end

variable {ctx : MeasureContext} {room : Room} {c : Component}

/-- What measuring a component comes to, from the room and the content alone. -/
theorem Proper.measure_eq (h : c.Proper) (room : Room) :
    c.measure ctx room = .of c.kind c.modifiers room (c.contentSize ctx room)
      (measureEach ctx (fun child => some (c.childRoom ctx room child)) c.children) := by
  cases h with
  | @container id kind modifiers children hkind hchildren =>
      cases kind with
      | row layout => exact measure_row
      | column layout => exact measure_column
      | box layout => exact measure_box
      | text content => contradiction
      | spacer => contradiction
  | @leaf id kind modifiers hkind =>
      cases kind with
      | text content => exact measure_text
      | spacer => exact measure_spacer
      | _ => contradiction

/-- The size of a component with some modifiers that was measured. -/
def measuredSize (modifiers : Modifiers) (m : Option Measurement) : Option Size :=
  m.map fun m => Modifiers.outerSize modifiers m.room m.content

theorem zipWith_measuredSize_replicate (modifiers : List Modifiers) :
    List.zipWith measuredSize modifiers (List.replicate modifiers.length none) =
      List.replicate modifiers.length none := by
  induction modifiers with
  | nil => rfl
  | cons ms modifiers ih =>
      rw [List.length_cons, List.replicate_succ, List.zipWith_cons_cons, ih]
      rfl

/-- The modifiers of the components of a tree, by number. -/
def decorations (c : Component) : List Modifiers := c.unlinked.map (·.modifiers)

/-- The modifiers of the components of some trees, by number. -/
def decorationsAll (cs : List Component) : List Modifiers := (unlinkedAll cs).map (·.modifiers)

theorem decorations_node {id : ComponentId} {kind : ComponentKind} {modifiers : Modifiers}
    {children : List Component} :
    (node id kind modifiers children).decorations = modifiers :: decorationsAll children := by
  rw [decorations, unlinked, List.map_cons, decorationsAll]

theorem decorationsAll_cons (c : Component) (cs : List Component) :
    decorationsAll (c :: cs) = c.decorations ++ decorationsAll cs := by
  rw [decorationsAll, unlinkedAll, List.map_append, decorations, decorationsAll]

theorem length_decorations (c : Component) : c.decorations.length = c.size := by
  rw [decorations, List.length_map, length_unlinked]

mutual

theorem length_measurements (room : Room) :
    (c : Component) → (c.measurements ctx room).length = c.size
  | node id kind modifiers children => by
      rw [measurements, List.length_cons, length_measurementsEach _ children, size, Nat.add_comm]

theorem length_measurementsEach (roomOf : Component → Room) :
    (cs : List Component) → (measurementsEach ctx roomOf cs).length = sizeAll cs
  | [] => rfl
  | c :: rest => by
      rw [measurementsEach, List.length_append, length_measurementsEach _ rest, sizeAll]
      split
      · rw [length_measurements _ c]
      · rw [List.length_replicate]

end

/-- The trees that take part are measured with what is listed for them. -/
theorem extentsAll_measureEach {cs : List Component} {roomOf : Component → Room}
    (h : ∀ c ∈ cs, ∀ room, (c.measure ctx room).extents =
      List.zipWith measuredSize c.decorations (c.measurements ctx room)) :
    Measured.extentsAll (measureEach ctx (fun c => some (roomOf c)) cs) =
      List.zipWith measuredSize (decorationsAll cs) (measurementsEach ctx roomOf cs) := by
  induction cs with
  | nil => rfl
  | cons c cs ih =>
      rw [List.forall_mem_cons] at h
      have hlength : c.decorations.length = (if ctx.takesPart c then
          c.measurements ctx (roomOf c) else List.replicate c.size none).length := by
        split
        · rw [length_decorations, length_measurements]
        · rw [length_decorations, List.length_replicate]
      rw [measureEach_cons, Measured.extentsAll, ih h.2, decorationsAll_cons, measurementsEach,
        List.zipWith_append hlength]
      congr 1
      unfold measureIf
      cases ctx.takesPart c with
      | true => exact h.1 (roomOf c)
      | false =>
          rw [Measured.extents, if_neg Bool.false_ne_true, ← length_decorations,
            zipWith_measuredSize_replicate]

/-- The sizes that measuring finds are those that follow from what is listed. -/
theorem Proper.extents_measure (h : c.Proper) (room : Room) :
    (c.measure ctx room).extents =
      List.zipWith measuredSize c.decorations (c.measurements ctx room) := by
  induction h generalizing room with
  | @container id kind modifiers children hkind hchildren ih =>
      have hproper : (node id kind modifiers children).Proper := .container hkind hchildren
      rw [hproper.measure_eq room, Measured.of, Measured.extents, Component.children,
        extentsAll_measureEach ih, decorations_node, measurements]
      rfl
  | @leaf id kind modifiers hkind =>
      have hproper : (node id kind modifiers []).Proper := .leaf hkind
      rw [hproper.measure_eq room, Measured.of, Measured.extents, decorations_node, measurements]
      rfl

/-! ## Rooms -/

/-- The limits of the room of a child are extents. -/
theorem counts_childRoom (ctx : MeasureContext) (room : Room) (c child : Component) :
    (c.childRoom ctx room child).Counts := by
  obtain ⟨id, kind, modifiers, children⟩ := c
  have hinner := Room.Counts.innerRoom modifiers room
  have hlinear (axis : Axis) (layout : LinearLayout) :
      (linearRoom axis (Modifiers.innerRoom modifiers room)
        (linearShare ctx axis layout (Modifiers.innerRoom modifiers room) children)
        child).Counts := by
    refine Room.Counts.axis_room ?_ (hinner.crossSpace axis)
    split
    · exact Space.counts_map_extent _ _
    · exact Space.counts_none
  cases kind with
  | row layout => exact hlinear .horizontal layout
  | column layout => exact hlinear .vertical layout
  | _ => exact hinner

mutual

theorem counts_of_mem_measurements {room : Room} {m : Measurement} (hroom : room.Counts) :
    (c : Component) → some m ∈ c.measurements ctx room → m.room.Counts
  | node id kind modifiers children, h => by
      rw [measurements, List.mem_cons] at h
      rcases h with h | h
      · obtain rfl := Option.some.inj h
        exact hroom
      · exact counts_of_mem_measurementsEach (counts_childRoom ctx room _) children h

theorem counts_of_mem_measurementsEach {roomOf : Component → Room} {m : Measurement}
    (hroom : ∀ c, (roomOf c).Counts) :
    (cs : List Component) → some m ∈ measurementsEach ctx roomOf cs → m.room.Counts
  | [], h => absurd h List.not_mem_nil
  | c :: rest, h => by
      rw [measurementsEach, List.mem_append] at h
      rcases h with h | h
      · split at h
        · exact counts_of_mem_measurements (hroom c) c h
        · exact absurd (List.eq_of_mem_replicate h) (Option.some_ne_none m)
      · exact counts_of_mem_measurementsEach hroom rest h

end

end Component

/-! ## Passes -/

namespace ComponentTree

/-- What the components of a tree in a viewport are measured with, by number. -/
def measurements (t : ComponentTree) (ctx : MeasureContext) (viewport : Size) :
    List (Option Measurement) :=
  if ctx.takesPart t.root then t.root.measurements ctx (.ofViewport viewport)
  else List.replicate t.size none

variable {t : ComponentTree} {ctx : MeasureContext} {viewport : Size} {i : Nat}

/-- Bounds have the sizes that were measured. -/
theorem map_size_bounds (hproper : t.root.Proper) :
    (t.bounds ctx viewport).map (Option.map (·.size)) =
      List.zipWith Component.measuredSize t.root.decorations (t.measurements ctx viewport) := by
  rw [bounds, measurements]
  split
  · rw [Measured.map_size_place, hproper.extents_measure]
  · rw [size, ← Component.length_decorations, Component.zipWith_measuredSize_replicate,
      List.map_replicate]
    rfl

theorem counts_of_measurements {m : Measurement}
    (h : (t.measurements ctx viewport)[i]? = some (some m)) : m.room.Counts := by
  have hmem := List.mem_of_getElem? h
  rw [measurements] at hmem
  split at hmem
  · exact Component.counts_of_mem_measurements (Room.counts_ofViewport viewport) _ hmem
  · exact absurd (List.eq_of_mem_replicate hmem) (Option.some_ne_none m)

theorem decorations_getElem? (t : ComponentTree) (i : Nat) :
    t.root.decorations[i]? = (t.node? i).map (·.modifiers) := by
  rw [Component.decorations, List.getElem?_map, getElem?_unlinked, Option.map_map]
  rfl

end ComponentTree

/-- A component that the last pass has placed was measured, and its size is what that came to. -/
theorem Layout.exists_measurement_of_isPlaced {t : ComponentTree} {ctx : MeasureContext}
    {viewport : Size} {i : Nat} (hproper : t.root.Proper) (l : Layout)
    (hplaced : (l.compute t ctx viewport).isPlaced i = true) :
    ∃ n m, t.node? i = some n ∧ (t.measurements ctx viewport)[i]? = some (some m) ∧
      m.room.Counts ∧ ((l.compute t ctx viewport).bounds i).size =
        Modifiers.outerSize n.modifiers m.room m.content := by
  have hsize : (l.compute t ctx viewport).size = t.size := size_compute hproper
  have hlt : i < t.nodes.length := by
    rw [ComponentTree.length_nodes, ← hsize]
    by_contra hge
    rw [isPlaced, phase, List.getElem?_eq_none (Nat.not_lt.1 hge)] at hplaced
    contradiction
  have hnode : t.node? i = some t.nodes[i] := List.getElem?_eq_getElem hlt
  obtain ⟨found, hfound⟩ : ∃ bounds, (t.found ctx viewport)[i]? = some (_, bounds) :=
    ComponentTree.exists_found_of_node? hproper hnode
  obtain ⟨hisPlaced, -, hbounds⟩ := l.compute_found hfound
  rw [hplaced] at hisPlaced
  obtain ⟨b, rfl⟩ := Option.isSome_iff_exists.1 hisPlaced.symm
  obtain ⟨-, hb⟩ := List.getElem?_zip_eq_some.1 hfound
  -- the entry in the list of sizes is on the one hand that of the bounds, on the other measured
  have hextent : ((t.bounds ctx viewport).map (Option.map (·.size)))[i]? =
      some (some b.size) := by
    rw [List.getElem?_map, hb]
    rfl
  rw [ComponentTree.map_size_bounds hproper, List.getElem?_zipWith,
    ComponentTree.decorations_getElem?, hnode] at hextent
  cases hm : (t.measurements ctx viewport)[i]? with
  | none =>
      rw [hm] at hextent
      contradiction
  | some measurement =>
      rw [hm] at hextent
      cases measurement with
      | none => exact absurd (Option.some.inj hextent).symm (Option.some_ne_none _)
      | some m =>
          refine ⟨_, m, hnode, rfl, ComponentTree.counts_of_measurements hm, ?_⟩
          rw [hbounds b rfl]
          exact (Option.some.inj (Option.some.inj hextent)).symm

end Panel
