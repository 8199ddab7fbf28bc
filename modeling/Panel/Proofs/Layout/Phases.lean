import Panel.Proofs.Component.Consistent
import Panel.Proofs.Content.Tree
import Panel.Proofs.Layout.Arrays
import Panel.Proofs.Layout.Found

/-!
# How far layout takes a component

After any passes, a component is placed if the last of them found neither it nor anything above it
gone.  If one was, what counts is whether an earlier pass has placed the component.
-/

namespace Panel

/-- Neither a component nor anything above it is gone. -/
def ComponentTree.InFlow (t : ComponentTree) (store : Store) (i : Nat) : Prop :=
  ∀ j ∈ i :: t.ancestors i, ∀ n ∈ t.node? j,
    Modifiers.resolvedVisibility store n.modifiers ≠ .gone

instance (t : ComponentTree) (store : Store) (i : Nat) : Decidable (t.InFlow store i) :=
  inferInstanceAs (Decidable (∀ j ∈ i :: t.ancestors i, ∀ n ∈ t.node? j,
    Modifiers.resolvedVisibility store n.modifiers ≠ .gone))

/-! ## Which components have bounds -/

namespace Component

open ComponentTree

variable {t : ComponentTree} {ctx : MeasureContext} {above : List Nat} {i : Nat} {c : Component}

theorem takesPart_iff (c : Component) :
    ctx.takesPart c = true ↔ Modifiers.resolvedVisibility ctx.store c.modifiers ≠ .gone := by
  rw [MeasureContext.takesPart]
  cases Modifiers.resolvedVisibility ctx.store c.modifiers <;> decide

theorem At.inFlow_iff (h : At t.root above i c) :
    t.InFlow ctx.store i ↔ ctx.takesPart c = true ∧
      ∀ j ∈ above, ∀ n ∈ t.node? j, Modifiers.resolvedVisibility ctx.store n.modifiers ≠ .gone := by
  obtain ⟨id, kind, modifiers, children⟩ := c
  have hnode : t.node? i = some ⟨id, kind, modifiers, above.head?, _⟩ := h.getElem?_flatten
  rw [InFlow, ancestors_eq h, List.forall_mem_cons, hnode, takesPart_iff]
  simp [Component.modifiers]

theorem At.inFlow_child_iff {id : ComponentId} {kind : ComponentKind} {modifiers : Modifiers}
    {front back : List Component}
    (h : At t.root above i (node id kind modifiers (front ++ c :: back))) :
    t.InFlow ctx.store (i + 1 + sizeAll front) ↔ ctx.takesPart c = true ∧ t.InFlow ctx.store i := by
  rw [(At.child h).inFlow_iff, InFlow, ancestors_eq h]

theorem At.proper (h : At t.root above i c) (hproper : t.root.Proper) : c.Proper := by
  induction h with
  | root => exact hproper
  | child _ ih => exact ih.parts.2.1

/-- A container measures each of its children in room of its own. -/
theorem exists_measure_container (ctx : MeasureContext) (id : ComponentId) {kind : ComponentKind}
    (modifiers : Modifiers) (children : List Component) (hkind : kind.isContainer = true)
    (room : Room) :
    ∃ (content : Size) (roomOf : Component → Room),
      (node id kind modifiers children).measure ctx room =
        .of kind modifiers room content (measureEach ctx (fun c => some (roomOf c)) children) := by
  cases kind with
  | row layout => exact ⟨_, _, measure_row⟩
  | column layout => exact ⟨_, _, measure_column⟩
  | box layout => exact ⟨_, _, measure_box⟩
  | text content => contradiction
  | spacer => contradiction

/-- What a container finds for a child and all below it stands together: nothing, if the child is
gone, and otherwise what placing gives. -/
theorem exists_place_child (ctx : MeasureContext) {id : ComponentId} {kind : ComponentKind}
    {modifiers : Modifiers} {front back : List Component}
    (hproper : (node id kind modifiers (front ++ c :: back)).Proper) (room : Room)
    (origin : Point) :
    ∃ before part after,
      ((node id kind modifiers (front ++ c :: back)).measure ctx room).place origin =
        before ++ part ++ after ∧ before.length = 1 + sizeAll front ∧
      (ctx.takesPart c = true → ∃ room origin, part = (c.measure ctx room).place origin) ∧
      (ctx.takesPart c = false → part = List.replicate c.size none) := by
  obtain ⟨hkind, -, hfront, -⟩ := hproper.parts
  obtain ⟨content, roomOf, hmeasure⟩ := exists_measure_container ctx id modifiers
    (front ++ c :: back) hkind room
  rw [hmeasure, measureEach_append, measureEach_cons, Measured.of, Measured.place,
    Measured.placeAll_append, Measured.placeAll_cons, ← List.append_assoc, ← List.cons_append,
    ← List.cons_append]
  refine ⟨_, _, _, rfl, ?_, fun htakesPart => ?_, fun htakesPart => ?_⟩
  · rw [List.length_cons, Measured.length_placeAll, countAll_measureEach hfront, Nat.add_comm]
  · have hpart : c.measureIf ctx (some (roomOf c)) = c.measure ctx (roomOf c) := by
      unfold measureIf
      rw [htakesPart]
    exact ⟨_, _, congrArg (Measured.place _) hpart⟩
  · unfold measureIf
    rw [htakesPart, Measured.place]

/-- What a pass finds for a component and all below it: nothing, if it or something above it is
gone, and otherwise what placing gives. -/
theorem At.exists_bounds (ctx : MeasureContext) (viewport : Size) (h : At t.root above i c)
    (hproper : t.root.Proper) :
    ∃ before part after, t.bounds ctx viewport = before ++ part ++ after ∧ before.length = i ∧
      (t.InFlow ctx.store i → ∃ room origin, part = (c.measure ctx room).place origin) ∧
      (¬ t.InFlow ctx.store i → part = List.replicate c.size none) := by
  induction h with
  | root =>
      have hflow : t.InFlow ctx.store 0 ↔ ctx.takesPart t.root = true := by
        have hroot : At t.root [] 0 t.root := .root
        simp [hroot.inFlow_iff]
      refine ⟨[], t.bounds ctx viewport, [], by simp, rfl, fun h => ?_, fun h => ?_⟩
      · exact ⟨_, _, if_pos (hflow.1 h)⟩
      · exact if_neg (mt hflow.2 h)
  | @child above i id kind modifiers front c back h ih =>
      obtain ⟨before, part, after, hbounds, hbefore, hplaced, habsent⟩ := ih
      rw [h.inFlow_child_iff]
      by_cases hflow : t.InFlow ctx.store i
      · obtain ⟨room, origin, hpart⟩ := hplaced hflow
        obtain ⟨before', part', after', hplace, hbefore', hplaced', habsent'⟩ :=
          exists_place_child ctx (h.proper hproper) room origin
        refine ⟨before ++ before', part', after' ++ after, ?_, ?_, fun h => hplaced' h.1,
          fun h => habsent' (by simpa [hflow] using h)⟩
        · rw [hbounds, hpart, hplace]
          simp only [List.append_assoc]
        · rw [List.length_append, hbefore', hbefore, Nat.add_assoc]
      · refine ⟨before ++ List.replicate (1 + sizeAll front) none, List.replicate c.size none,
          List.replicate (sizeAll back) none ++ after, ?_, ?_, fun h => ?_, fun _ => rfl⟩
        · rw [hbounds, habsent hflow, size, sizeAll_append, sizeAll, ← Nat.add_assoc,
            ← Nat.add_assoc, List.replicate_add, List.replicate_add]
          simp only [List.append_assoc]
        · rw [List.length_append, List.length_replicate, hbefore]
          omega
        · exact absurd h.2 hflow

end Component

namespace ComponentTree

variable {t : ComponentTree} {i : Nat} {n : Node}

/-- A pass finds bounds for a component if neither it nor anything above it is gone. -/
theorem exists_bounds_of_node? (ctx : MeasureContext) (viewport : Size)
    (hproper : t.root.Proper) (hnode : t.node? i = some n) :
    ∃ bounds, (t.bounds ctx viewport)[i]? = some bounds ∧
      (bounds.isSome = true ↔ t.InFlow ctx.store i) := by
  obtain ⟨above, children, h, -⟩ := exists_at_of_node? hnode
  obtain ⟨before, part, after, hbounds, hbefore, hplaced, habsent⟩ :=
    h.exists_bounds ctx viewport hproper
  by_cases hflow : t.InFlow ctx.store i
  · obtain ⟨room, origin, rfl⟩ := hplaced hflow
    obtain ⟨padding, size, ms, hmeasure⟩ := Component.exists_measure_eq ctx room
      (.node n.id n.kind n.modifiers children)
    rw [hmeasure, Measured.place] at hbounds
    refine ⟨some ⟨origin, size⟩, ?_, iff_of_true rfl hflow⟩
    rw [hbounds, List.append_assoc, List.getElem?_append_right (Nat.le_of_eq hbefore), hbefore,
      Nat.sub_self]
    rfl
  · refine ⟨none, ?_, iff_of_false Bool.false_ne_true hflow⟩
    rw [hbounds, habsent hflow, List.append_assoc,
      List.getElem?_append_right (Nat.le_of_eq hbefore), hbefore, Nat.sub_self, Component.size,
      Nat.add_comm, List.replicate_succ]
    rfl

end ComponentTree

/-! ## Phases -/

theorem Placement.phase_next_none (p : Placement) (visibility : Visibility) :
    (p.next visibility none).phase = p.phase.leftOut := by
  obtain ⟨_, _, phase, _⟩ := p
  cases phase <;> rfl

namespace Layout

variable {t : ComponentTree} {ctx : MeasureContext} {viewport : Size} {i : Nat} {n : Node}

/-- What a pass makes of the phase of a component. -/
theorem phase_compute (hproper : t.root.Proper) (hnode : t.node? i = some n) (l : Layout) :
    (l.compute t ctx viewport).phase i =
      if t.InFlow ctx.store i then .placed
      else ((if l.size = t.size then l else fresh t.size).phase i).leftOut := by
  obtain ⟨bounds, hbounds, hflow⟩ := ComponentTree.exists_bounds_of_node? ctx viewport
    hproper hnode
  have hlt : i < (if l.size = t.size then l else fresh t.size).placements.length := by
    have hsize : (if l.size = t.size then l else fresh t.size).placements.length = t.size :=
      l.size_before t.size
    rw [hsize, ← ComponentTree.length_nodes]
    exact (List.getElem?_eq_some_iff.1 hnode).1
  rw [phase, getElem?_placements_compute, phase, List.getElem?_eq_getElem hlt, hnode, hbounds]
  cases bounds with
  | none =>
      rw [if_neg fun h => Bool.false_ne_true (hflow.2 h)]
      exact Placement.phase_next_none _ _
  | some bounds =>
      rw [if_pos (hflow.1 rfl)]
      rfl

theorem phase_fresh (count i : Nat) : (fresh count).phase i = .unmeasured := by
  rw [phase, fresh, List.getElem?_replicate]
  split <;> rfl

/-- By induction on the earlier passes: the last of them says what the next one finds. -/
theorem phase_computeAll (hproper : t.root.Proper) (hnode : t.node? i = some n) (count : Nat)
    (earlier : List (MeasureContext × Size)) (ctx : MeasureContext) (viewport : Size) :
    ((fresh count).computeAll t (earlier ++ [(ctx, viewport)])).phase i =
      if t.InFlow ctx.store i then .placed
      else if ∃ pass ∈ earlier, t.InFlow pass.1.store i then .unplaced
      else .unmeasured := by
  induction earlier using List.reverseRecOn generalizing ctx viewport with
  | nil =>
      rw [computeAll_concat, phase_compute hproper hnode, computeAll, List.foldl_nil,
        apply_ite (phase · i), phase_fresh, phase_fresh, ite_self]
      simp [Phase.leftOut]
  | append_singleton earlier pass ih =>
      have hsize : ((fresh count).computeAll t (earlier ++ [pass])).size = t.size := by
        rw [computeAll_concat, size_compute hproper]
      rw [computeAll_concat, phase_compute hproper hnode, if_pos hsize, ih]
      congr 1
      by_cases hpass : t.InFlow pass.1.store i
      · have hexists : ∃ pass' ∈ earlier ++ [pass], t.InFlow pass'.1.store i :=
          ⟨pass, List.mem_append_right _ List.mem_cons_self, hpass⟩
        rw [if_pos hpass, if_pos hexists]
        rfl
      · have hexists : (∃ pass' ∈ earlier ++ [pass], t.InFlow pass'.1.store i) ↔
            ∃ pass' ∈ earlier, t.InFlow pass'.1.store i := by simp [or_and_right, exists_or, hpass]
        rw [if_neg hpass]
        by_cases hearlier : ∃ pass' ∈ earlier, t.InFlow pass'.1.store i
        · rw [if_pos hearlier, if_pos (hexists.2 hearlier)]
          rfl
        · rw [if_neg hearlier, if_neg (mt hexists.1 hearlier)]
          rfl

/-- Some earlier pass has placed a component if one has found neither it nor anything above it
gone. -/
theorem exists_prefix_placed_iff (hproper : t.root.Proper) (hnode : t.node? i = some n)
    (count : Nat) (earlier : List (MeasureContext × Size)) :
    (∃ front, front <+: earlier ∧ ((fresh count).computeAll t front).phase i = .placed) ↔
      ∃ pass ∈ earlier, t.InFlow pass.1.store i := by
  have hplaced (front : List (MeasureContext × Size)) (pass : MeasureContext × Size) :
      ((fresh count).computeAll t (front ++ [pass])).phase i = .placed ↔
        t.InFlow pass.1.store i := by
    rw [phase_computeAll hproper hnode]
    split
    · next hflow => exact iff_of_true rfl hflow
    · next hflow =>
        refine iff_of_false (fun h => ?_) hflow
        split at h <;> contradiction
  constructor
  · rintro ⟨front, hprefix, hphase⟩
    rcases List.eq_nil_or_concat' front with rfl | ⟨front, pass, rfl⟩
    · rw [computeAll, List.foldl_nil, phase_fresh] at hphase
      contradiction
    · exact ⟨pass, hprefix.subset (List.mem_append_right _ List.mem_cons_self),
        (hplaced front pass).1 hphase⟩
  · rintro ⟨pass, hpass, hflow⟩
    obtain ⟨front, back, rfl⟩ := List.append_of_mem hpass
    refine ⟨front ++ [pass], ⟨back, ?_⟩, (hplaced front pass).2 hflow⟩
    rw [List.append_assoc, List.singleton_append]

end Layout

namespace Content

variable {operations : List Operation} {maxDepth : Nat} {content : Content}

/-- After any passes from fresh arrays, a component is placed if the last pass found neither it nor
anything above it gone.  Otherwise it is unplaced if it was placed after some earlier pass, and
unmeasured if it never was.  All arrays have the length of the tree. -/
theorem passes_phaseAt (h : ofOperations operations maxDepth = .ok content) (count : Nat)
    (earlier : List (MeasureContext × Size)) (ctx : MeasureContext) (viewport : Size) :
    let t := content.tree
    let run (passes : List (MeasureContext × Size)) := (LayoutArrays.fresh count).passes? t passes
    ∃ a, run (earlier ++ [(ctx, viewport)]) = some a ∧
      (a.x.length = t.size ∧ a.y.length = t.size ∧ a.width.length = t.size ∧
        a.height.length = t.size ∧ a.visibility.length = t.size ∧ a.phase.length = t.size ∧
        a.dirty.length = t.size) ∧
      ∀ i < t.size,
        let wasPlaced := ∃ front b, front <+: earlier ∧ run front = some b ∧ b.phaseAt i = .placed
        (a.phaseAt i = .placed ↔ t.InFlow ctx.store i) ∧
          (a.phaseAt i = .unplaced ↔ ¬ t.InFlow ctx.store i ∧ wasPlaced) ∧
          (a.phaseAt i = .unmeasured ↔ ¬ t.InFlow ctx.store i ∧ ¬ wasPlaced) ∧
          a.phaseAt i ≠ .measured := by
  intro t run
  have hproper : t.root.Proper := (root_of_ofOperations h).2
  have hrun (passes : List (MeasureContext × Size)) :
      run passes = some ((Layout.fresh count).computeAll t passes).arrays := by
    dsimp only [run]
    rw [← Layout.arrays_fresh, Layout.passes?_arrays hproper]
  refine ⟨_, hrun _, ?_, fun i hi => ?_⟩
  · have hsize : ((Layout.fresh count).computeAll t (earlier ++ [(ctx, viewport)])).size =
        t.size := by
      rw [Layout.computeAll_concat, Layout.size_compute hproper]
    have hlength := ((Layout.fresh count).computeAll t (earlier ++ [(ctx, viewport)])).length_arrays
    rwa [hsize] at hlength
  · intro wasPlaced
    rw [← ComponentTree.length_nodes] at hi
    have hnode : t.node? i = some t.nodes[i] := List.getElem?_eq_getElem hi
    have hwas : wasPlaced ↔ ∃ pass ∈ earlier, t.InFlow pass.1.store i := by
      rw [← Layout.exists_prefix_placed_iff hproper hnode count]
      constructor
      · rintro ⟨front, b, hprefix, hb, hphase⟩
        rw [hrun, Option.some_inj] at hb
        rw [← hb, Layout.phaseAt_arrays] at hphase
        exact ⟨front, hprefix, hphase⟩
      · rintro ⟨front, hprefix, hphase⟩
        rw [← Layout.phaseAt_arrays] at hphase
        exact ⟨front, _, hprefix, hrun front, hphase⟩
    rw [Layout.phaseAt_arrays, Layout.phase_computeAll hproper hnode, hwas]
    by_cases hflow : t.InFlow ctx.store i
    · rw [if_pos hflow]
      simp [hflow]
    · rw [if_neg hflow]
      by_cases hearlier : ∃ pass ∈ earlier, t.InFlow pass.1.store i
      · rw [if_pos hearlier]
        simp [hflow, hearlier]
      · rw [if_neg hearlier]
        simp [hflow, hearlier]

/-- A column in a row is gone in the second pass, which leaves out what is in the column. -/
theorem passes_phaseAt_row :
    let operations : List Operation :=
      [.value ⟨7⟩ (.int 0), .component ⟨1⟩ (.row ⟨.start, .center, .one⟩),
        .modifier (.visibility (.reference ⟨7⟩)), .component ⟨2⟩ (.column ⟨.start, .center, .one⟩),
        .component ⟨3⟩ .spacer, .containerEnd, .containerEnd]
    let pass (value : Int32) : MeasureContext × Size :=
      (⟨⟨[⟨⟨7⟩, .int value, false⟩], [], 8⟩, fun _ _ => .empty⟩, .empty)
    ∃ content a b, ofOperations operations 3 = .ok content ∧
      (LayoutArrays.fresh 0).passes? content.tree [pass 0] = some a ∧ a.phaseAt 2 = .placed ∧
      (LayoutArrays.fresh 0).passes? content.tree [pass 0, pass 2] = some b ∧
      b.phaseAt 0 = .placed ∧ b.phaseAt 2 = .unplaced ∧ b.x.length = 3 := by
  intro operations pass
  have hcontent : ofOperations operations 3 =
      .ok ⟨⟨[⟨⟨7⟩, .int 0, false⟩], [], 8⟩, [],
        ⟨.node ⟨1⟩ (.row ⟨.start, .center, .one⟩) []
          [.node ⟨2⟩ (.column ⟨.start, .center, .one⟩) [.visibility (.reference ⟨7⟩)]
            [.node ⟨3⟩ .spacer [] []]]⟩, []⟩ := by cbv
  obtain ⟨a, ha, -, hphases⟩ := passes_phaseAt hcontent 0 [] (pass 0).1 (pass 0).2
  obtain ⟨b, hb, hlengths, hphases'⟩ := passes_phaseAt hcontent 0 [pass 0] (pass 2).1 (pass 2).2
  have hplaced : a.phaseAt 2 = .placed := (hphases 2 (by decide)).1.2 (by decide)
  refine ⟨_, a, b, hcontent, ha, hplaced, hb, ?_, ?_, hlengths.1⟩
  · exact (hphases' 0 (by decide)).1.2 (by decide)
  · exact (hphases' 2 (by decide)).2.1.2
      ⟨by decide, [pass 0], a, List.prefix_refl _, ha, hplaced⟩

end Content

end Panel
