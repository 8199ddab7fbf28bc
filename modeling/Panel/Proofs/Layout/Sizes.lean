import Panel.Proofs.Content.Tree
import Panel.Proofs.Layout.Measurement

/-!
# Sizes of placed components

Whatever numbers a document, a viewport and the measure of texts bring in, a component that is
placed has an extent along each axis, and unless it asks for a fixed one it stays within its space.

A component that is as large as its content is to have no extent where content and padding come to
less than nothing, or to no number.  That is so but for one case: against a limit, a sum that is no
number gives way to the limit before anything looks at it.
-/

namespace Panel.Content

variable {operations : List Operation} {maxDepth : Nat} {content : Content}

/-- A component that a pass has placed is not below zero along any axis, and no larger than the
space that it was measured in unless it asks for a fixed size. -/
theorem isExtent_of_isPlaced (h : ofOperations operations maxDepth = .ok content) (store : Store)
    (textMeasure : TextMeasure) (viewport : Size) (before : Layout) (i : Nat) :
    let t := content.tree
    let after := before.compute t ⟨store, textMeasure⟩ viewport
    after.isPlaced i = true →
      ∃ n m, t.node? i = some n ∧
        (t.measurements ⟨store, textMeasure⟩ viewport)[i]? = some (some m) ∧
        (after.bounds i).size = Modifiers.outerSize n.modifiers m.room m.content ∧
        ∀ axis : Axis,
          let extent := axis.main (after.bounds i).size
          extent.IsExtent ∧
            ((∀ units, axis.dimension n.modifiers ≠ .fixed units) →
              ∀ limit, axis.mainSpace m.room = some limit → extent.le limit = true) := by
  intro t after hplaced
  have hproper : t.root.Proper := (root_of_ofOperations h).2
  obtain ⟨n, m, hnode, hm, hroom, hsize⟩ := before.exists_measurement_of_isPlaced hproper hplaced
  refine ⟨n, m, hnode, hm, hsize, fun axis => ?_⟩
  rw [hsize, axis.main_outerSize]
  refine ⟨Dimension.isExtent_resolve _ _ _, fun hdimension limit hlimit => ?_⟩
  rw [hlimit]
  exact Dimension.resolve_le hdimension (hroom.mainSpace axis limit hlimit)

/-- A row with infinite padding and no number for a spacing, in a viewport without a height, around
a text as high as no number and less than nothing wide, which asks for all the width. -/
theorem isExtent_of_isPlaced_row :
    let operations : List Operation :=
      [.modifier (.padding ⟨⟨0x7F800000⟩, .nan, ⟨0xFF800000⟩, .one⟩),
        .component ⟨1⟩ (.row ⟨.spaceEvenly, .center, .nan⟩),
        .modifier (.width .fill), .component ⟨2⟩ (.text (.regular ⟨7⟩ ⟨8⟩ .nan)), .containerEnd]
    let textMeasure : TextMeasure := fun _ _ => ⟨⟨0xBF800000⟩, .nan⟩
    let viewport : Size := ⟨⟨0x42C80000⟩, .nan⟩
    ∃ content, ofOperations operations 2 = .ok content ∧
      let after := Layout.empty.compute content.tree ⟨.blank, textMeasure⟩ viewport
      after.isPlaced 1 = true ∧ (after.bounds 1).size.width.IsExtent ∧
        (after.bounds 1).size.height.IsExtent := by
  intro operations textMeasure viewport
  have hcontent : ofOperations operations 2 =
      .ok ⟨.blank, [], ⟨.node ⟨1⟩ (.row ⟨.spaceEvenly, .center, .nan⟩)
        [.padding ⟨⟨0x7F800000⟩, .nan, ⟨0xFF800000⟩, .one⟩]
        [.node ⟨2⟩ (.text (.regular ⟨7⟩ ⟨8⟩ .nan)) [.width .fill] []]⟩, []⟩ := by cbv
  have hplaced : (Layout.empty.compute (ComponentTree.mk
      (.node ⟨1⟩ (.row ⟨.spaceEvenly, .center, .nan⟩)
        [.padding ⟨⟨0x7F800000⟩, .nan, ⟨0xFF800000⟩, .one⟩]
        [.node ⟨2⟩ (.text (.regular ⟨7⟩ ⟨8⟩ .nan)) [.width .fill] []]))
      ⟨.blank, textMeasure⟩ viewport).isPlaced 1 = true := by decide +kernel
  obtain ⟨n, m, -, -, -, haxes⟩ :=
    isExtent_of_isPlaced hcontent .blank textMeasure viewport .empty 1 hplaced
  exact ⟨_, hcontent, hplaced, (haxes .horizontal).1, (haxes .vertical).1⟩

/-- A component as large as its content, whose content and padding come to less than nothing or to
no number, has no extent; but where the sum is no number and there is a limit, its extent is the
limit. -/
theorem extent_of_collapsed (h : ofOperations operations maxDepth = .ok content) (store : Store)
    (textMeasure : TextMeasure) (viewport : Size) (before : Layout) (i : Nat) :
    let t := content.tree
    let after := before.compute t ⟨store, textMeasure⟩ viewport
    after.isPlaced i = true →
      ∃ n m, t.node? i = some n ∧
        (t.measurements ⟨store, textMeasure⟩ viewport)[i]? = some (some m) ∧
        (after.bounds i).size = Modifiers.outerSize n.modifiers m.room m.content ∧
        ∀ axis : Axis, axis.dimension n.modifiers = .wrap →
          let sum := (axis.main m.content).extent + axis.padding n.modifiers
          sum.isNaN = true ∨ sum.lt .zero = true →
            axis.main (after.bounds i).size =
              if sum.isNaN then (axis.mainSpace m.room).getD .zero else .zero := by
  intro t after hplaced
  have hproper : t.root.Proper := (root_of_ofOperations h).2
  obtain ⟨n, m, hnode, hm, hroom, hsize⟩ := before.exists_measurement_of_isPlaced hproper hplaced
  refine ⟨n, m, hnode, hm, hsize, ?_⟩
  intro axis hwrap sum hsum
  rw [hsize, axis.main_outerSize, hwrap]
  exact Dimension.wrap_resolve_of_collapsed (hroom.mainSpace axis) hsum

/-- A box has less than no padding along a limit, and no number for a padding where there is no
limit. -/
theorem extent_of_collapsed_box :
    let operations : List Operation :=
      [.modifier (.padding ⟨⟨0xC0400000⟩, .nan, .zero, .zero⟩),
        .component ⟨1⟩ (.box ⟨.start, .start⟩), .containerEnd]
    let viewport : Size := ⟨⟨0x42C80000⟩, .zero⟩
    ∃ content, ofOperations operations 1 = .ok content ∧
      let after := Layout.empty.compute content.tree ⟨.blank, fun _ _ => .empty⟩ viewport
      after.isPlaced 0 = true ∧ (after.bounds 0).size = .empty := by
  intro operations viewport
  have hcontent : ofOperations operations 1 =
      .ok ⟨.blank, [], ⟨.node ⟨1⟩ (.box ⟨.start, .start⟩)
        [.padding ⟨⟨0xC0400000⟩, .nan, .zero, .zero⟩] []⟩, []⟩ := by cbv
  have hplaced : (Layout.empty.compute (ComponentTree.mk (.node ⟨1⟩ (.box ⟨.start, .start⟩)
      [.padding ⟨⟨0xC0400000⟩, .nan, .zero, .zero⟩] [])) ⟨.blank, fun _ _ => .empty⟩
      viewport).isPlaced 0 = true := by decide +kernel
  obtain ⟨n, m, hnode, hm, -, haxes⟩ :=
    extent_of_collapsed hcontent .blank (fun _ _ => .empty) viewport .empty 0 hplaced
  obtain rfl := Option.some.inj hnode
  obtain rfl := Option.some.inj (Option.some.inj hm)
  have hwidth := haxes .horizontal rfl (.inr (by decide +kernel))
  have hheight := haxes .vertical rfl (.inl (by decide +kernel))
  refine ⟨_, hcontent, hplaced, ?_⟩
  rw [if_neg (by decide +kernel)] at hwidth
  rw [if_pos (by decide +kernel)] at hheight
  exact congrArg₂ Size.mk hwidth hheight

/-- A box without content takes the whole width of the viewport when its padding on the left is no
number, although its request is to be as large as its content. -/
theorem extent_of_nan_padding :
    let operations : List Operation :=
      [.modifier (.padding ⟨.nan, .zero, .zero, .zero⟩), .component ⟨1⟩ (.box ⟨.start, .start⟩),
        .containerEnd]
    let viewport : Size := ⟨⟨0x42C80000⟩, ⟨0x42C80000⟩⟩
    ∃ content n m, ofOperations operations 1 = .ok content ∧
      let ctx : MeasureContext := ⟨.blank, fun _ _ => .empty⟩
      let after := Layout.empty.compute content.tree ctx viewport
      content.tree.node? 0 = some n ∧
        (content.tree.measurements ctx viewport)[0]? = some (some m) ∧
        after.isPlaced 0 = true ∧ Axis.horizontal.dimension n.modifiers = .wrap ∧
        (m.content.width.extent + Axis.horizontal.padding n.modifiers).isNaN = true ∧
        (after.bounds 0).size = ⟨⟨0x42C80000⟩, .zero⟩ := by
  refine ⟨⟨.blank, [], ⟨.node ⟨1⟩ (.box ⟨.start, .start⟩)
    [.padding ⟨.nan, .zero, .zero, .zero⟩] []⟩, []⟩, _, _, by cbv, rfl, rfl, ?_⟩
  decide +kernel

end Panel.Content
