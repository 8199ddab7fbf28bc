import Panel.Layout.Pass
import Panel.Proofs.Component.Position
import Panel.Proofs.Layout.Rounds

/-!
# One entry for each component

Measuring and placing keep one entry for each component, whether it takes part or not.  So the
layout after a pass has as many entries as the tree has components, and a pass that finds
everything as the last one did changes nothing.
-/

namespace Panel

/-! ## Measuring -/

namespace Measured

mutual

/-- The number of components that were measured, those that take no part included. -/
def count : Measured → Nat
  | absent count => count
  | present _ _ _ children => 1 + countAll children

/-- The number of components in some measured trees. -/
def countAll : List Measured → Nat
  | [] => 0
  | m :: rest => m.count + countAll rest

end

/-- A tree that takes part is given the first origin, and one that does not is given none. -/
theorem placeAll_cons (origins : List Point) (m : Measured) (rest : List Measured) :
    placeAll origins (m :: rest) =
      m.place (origins.headD .origin) ++ placeAll (origins.drop m.size?.toList.length) rest := by
  cases m with
  | absent count => rw [placeAll, place]; rfl
  | present kind padding size children =>
      rw [placeAll]
      · rw [← List.drop_one]
        rfl
      · intro count hcount
        cases hcount

mutual

theorem length_place (origin : Point) : (m : Measured) → (m.place origin).length = m.count
  | absent count => by rw [place, List.length_replicate, Measured.count]
  | present kind padding size children => by
      rw [place, List.length_cons, length_placeAll _ children, count, Nat.add_comm]

theorem length_placeAll (origins : List Point) :
    (ms : List Measured) → (placeAll origins ms).length = countAll ms
  | [] => rfl
  | m :: rest => by
      rw [placeAll_cons, List.length_append, length_place _ m, length_placeAll _ rest, countAll]

end

end Measured

namespace Component

variable {ctx : MeasureContext}

theorem map_count_measureEach {cs : List Component}
    (h : ∀ c ∈ cs, ∀ room, (c.measure ctx room).count = c.size)
    (room? : Component → Option Room) :
    (measureEach ctx room? cs).map Measured.count = cs.map size := by
  induction cs with
  | nil => rfl
  | cons c cs ih =>
      rw [List.forall_mem_cons] at h
      rw [measureEach, List.map_cons, List.map_cons, ih h.2]
      congr 1
      split
      · exact h.1 _
      · rfl

theorem countAll_eq_sizeAll {ms : List Measured} {cs : List Component}
    (h : ms.map Measured.count = cs.map size) : Measured.countAll ms = sizeAll cs := by
  induction ms generalizing cs with
  | nil =>
      obtain rfl : cs = [] := List.map_eq_nil_iff.1 h.symm
      rfl
  | cons m ms ih =>
      cases cs with
      | nil => contradiction
      | cons c cs =>
          obtain ⟨hcount, hrest⟩ := List.cons.inj h
          rw [Measured.countAll, sizeAll, hcount, ih hrest]

theorem Proper.count_measure {c : Component} (h : c.Proper) (room : Room) :
    (c.measure ctx room).count = c.size := by
  induction h generalizing room with
  | @container id kind modifiers children hkind hchildren ih =>
      have hcount (room? : Component → Option Room) :
          Measured.countAll (measureEach ctx room? children) = sizeAll children :=
        countAll_eq_sizeAll (map_count_measureEach ih room?)
      rw [size]
      cases kind with
      | row layout =>
          rw [measure_row]
          exact congrArg (1 + ·) (hcount _)
      | column layout =>
          rw [measure_column]
          exact congrArg (1 + ·) (hcount _)
      | box layout =>
          rw [measure_box]
          exact congrArg (1 + ·) (hcount _)
      | text content => contradiction
      | spacer => contradiction
  | @leaf id kind modifiers hkind =>
      rw [size]
      cases kind with
      | text content => rw [measure]; rfl
      | spacer => rw [measure]; rfl
      | _ => contradiction

end Component

/-! ## Passes -/

namespace ComponentTree

variable {t : ComponentTree} {ctx : MeasureContext} {viewport : Size}

theorem length_nodes (t : ComponentTree) : t.nodes.length = t.size := by
  rw [nodes, Component.length_flatten, size]

theorem length_bounds (h : t.root.Proper) : (t.bounds ctx viewport).length = t.size := by
  unfold bounds
  split
  · rw [Measured.length_place, h.count_measure, size]
  · exact List.length_replicate

end ComponentTree

namespace Layout

variable {t : ComponentTree} {ctx : MeasureContext} {viewport : Size} {l : Layout}

theorem size_fresh (count : Nat) : (fresh count).size = count := List.length_replicate

theorem size_clearDirty (l : Layout) : l.clearDirty.size = l.size := List.length_map _

/-- A pass starts from a layout of the size of the tree. -/
theorem size_before (l : Layout) (count : Nat) :
    (if l.size = count then l else .fresh count).size = count := by
  split
  · assumption
  · exact size_fresh count

theorem size_compute (h : t.root.Proper) : (l.compute t ctx viewport).size = t.size := by
  have hbefore : (if l.size = t.size then l else .fresh t.size).placements.length = t.size :=
    l.size_before t.size
  rw [compute, size, List.length_zipWith, hbefore, List.length_zip, List.length_map,
    ComponentTree.length_nodes, ComponentTree.length_bounds h]
  omega

end Layout

/-- What a pass has once found, it finds again. -/
theorem Placement.next_next (p : Placement) (visibility : Visibility) (bounds : Option Bounds)
    (dirty : DirtyFlags) :
    { { p.next visibility bounds with dirty }.next visibility bounds with dirty } =
      { p.next visibility bounds with dirty } := by
  cases bounds with
  | some bounds => rfl
  | none =>
      obtain ⟨_, _, phase, _⟩ := p
      cases phase <;> rfl

/-- A pass over a layout that the same pass has just brought up to date changes nothing. -/
theorem Layout.compute_compute {t : ComponentTree} {ctx : MeasureContext} {viewport : Size}
    (h : t.root.Proper) (l : Layout) :
    ((l.compute t ctx viewport).clearDirty.compute t ctx viewport).clearDirty =
      (l.compute t ctx viewport).clearDirty := by
  have hsize : (l.compute t ctx viewport).clearDirty.size = t.size := by
    rw [size_clearDirty, size_compute h]
  have hagain (ps : List Placement) (found : List (Visibility × Option Bounds)) :
      (List.zipWith (fun p f => p.next f.1 f.2)
        ((List.zipWith (fun p f => p.next f.1 f.2) ps found).map
          fun p => { p with dirty := .none }) found).map (fun p => { p with dirty := .none }) =
        (List.zipWith (fun p f => Placement.next p f.1 f.2) ps found).map
          fun p => { p with dirty := .none } := by
    induction ps generalizing found with
    | nil => rfl
    | cons p ps ih =>
        cases found with
        | nil => rfl
        | cons f found =>
            simp only [List.zipWith_cons_cons, List.map_cons, ih, Placement.next_next]
  rw [compute, if_pos hsize, clearDirty, clearDirty, compute]
  exact congrArg Layout.mk (hagain _ _)

end Panel
