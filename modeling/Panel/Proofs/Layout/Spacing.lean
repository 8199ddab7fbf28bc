import Panel.Content.Assembly
import Panel.Proofs.Component.Modify
import Panel.Proofs.Layout.SideBySide

/-!
# Spacing without neighbours

A row or column with no more than one child that takes part has no gap, so its spacing should make
no difference.  It enters its size and the places of its children all the same, as a product with
zero.  That product is zero for every spacing but one: infinity times zero is no number.
-/

namespace Panel

open Single (Congruence)

/-! ## No gap -/

namespace Single

variable {x y : Single}

/-- Of all spacings that are no infinity only the negative zero leaves a trace in no gap at all. -/
theorem extent_mul_zero (h : x ≠ infinity) :
    x.extent * zero = if x = negZero then negZero else zero := by
  by_cases hx : x.IsExtent
  · rw [hx.extent_eq, hx.mul_zero h]
  · have hextent : x.extent = zero := by
      rw [extent, if_pos]
      by_contra hcounts
      rw [Bool.or_eq_true, not_or, Bool.not_eq_true, Bool.not_eq_true] at hcounts
      exact hx ⟨hcounts.1, hcounts.2⟩
    have hzero : x ≠ negZero := by
      rintro rfl
      exact hx (by decide)
    rw [hextent, isExtent_zero.mul_zero (by decide), if_neg hzero, if_neg (by decide)]

theorem agrees_extent_mul_zero (hx : x ≠ infinity) (hy : y ≠ infinity) :
    (x.extent * zero).Agrees (y.extent * zero) := by
  have hzero (z : Single) : (if z = negZero then negZero else zero).isZero = true := by
    split <;> decide
  rw [extent_mul_zero hx, extent_mul_zero hy]
  exact .inr ⟨hzero x, hzero y⟩

end Single

namespace LinearLayout

/-- The layout with another spacing. -/
def withSpacing (spacing : Single) (l : LinearLayout) : LinearLayout := { l with spacing }

variable {R : Single → Single → Prop} {count : Nat}

/-- The gaps of a single child come to the spacing times zero, in measuring as in placing. -/
theorem spacesAlike_of_le_one {l : LinearLayout} {spacing : Single} (hcount : count ≤ 1)
    (h : count = 1 → R (l.spacing.extent * .zero) (spacing.extent * .zero)) :
    l.SpacesAlike R count (l.withSpacing spacing) where
  arrangement := rfl
  alignment := rfl
  gaps := by
    intro hpos
    obtain rfl : count = 1 := by omega
    exact h rfl
  between := by
    intro hpos
    obtain rfl : count = 1 := by omega
    have hnone : Single.ofNat 1 - .one = .zero := by decide +kernel
    rw [hnone]
    exact h rfl
  spacing := fun h => absurd h (by omega)

end LinearLayout

namespace ComponentKind

/-- How a row or column lays out its children. -/
def linear? : ComponentKind → Option LinearLayout
  | row l => some l
  | column l => some l
  | _ => none

/-- The kind with another spacing, if it is that of a row or column. -/
def withSpacing (spacing : Single) : ComponentKind → ComponentKind
  | row l => row (l.withSpacing spacing)
  | column l => column (l.withSpacing spacing)
  | kind => kind

variable {R : Single → Single → Prop} {count : Nat} {kind : ComponentKind} {l : LinearLayout}

theorem spacesAlike_withSpacing {spacing : Single} (hkind : kind.linear? = some l)
    (h : l.SpacesAlike R count (l.withSpacing spacing)) :
    kind.SpacesAlike R count (kind.withSpacing spacing) := by
  cases kind with
  | row l' =>
      obtain rfl := Option.some.inj hkind
      exact .row h
  | column l' =>
      obtain rfl := Option.some.inj hkind
      exact .column h
  | _ => contradiction

end ComponentKind

/-! ## Another spacing for one component -/

namespace Component

/-- The component with another spacing, and the same children. -/
def withSpacing (spacing : Single) : Component → Component
  | node id kind modifiers children => node id (kind.withSpacing spacing) modifiers children

/-- A tree with a change to one component is measured as it was if that component is. -/
theorem At.alike_modify {R : Single → Single → Prop} (hR : Congruence R) {ctx : MeasureContext}
    {f : Component → Component} {root c : Component} {above : List Nat} {i : Nat}
    (h : At root above i c) (hc : c.Alike R ctx (f c)) : root.Alike R ctx (root.modify f i) :=
  h.rel_modify (S := Alike R ctx) (fun {id kind modifiers front _ _ back} hd =>
    alike_node hR id modifiers (kind.spacesAlike_refl hR _)
      (List.rel_append (alike_refl_all hR front) (.cons hd (alike_refl_all hR back)))) hc

end Component

/-- The tree with another spacing for the component that has a number. -/
def ComponentTree.withSpacing (t : ComponentTree) (i : Nat) (spacing : Single) : ComponentTree :=
  ⟨t.root.modify (Component.withSpacing spacing) i⟩

namespace Layout

variable {t : ComponentTree} {ctx : MeasureContext} {c : Component} {above : List Nat} {i : Nat}
  {l : LinearLayout} {spacing : Single}

theorem alike_compute_withSpacing {R : Single → Single → Prop} (hR : Congruence R)
    (hat : Component.At t.root above i c) (hlinear : c.kind.linear? = some l)
    (hspaces : l.SpacesAlike R (Component.flowCount ctx c.children) (l.withSpacing spacing))
    (viewport : Size) (before : Layout) :
    (before.compute t ctx viewport).Alike R
      (before.compute (t.withSpacing i spacing) ctx viewport) := by
  refine alike_compute hR (hat.alike_modify hR ?_) viewport before
  obtain ⟨id, kind, modifiers, children⟩ := c
  exact Component.alike_node hR id modifiers (ComponentKind.spacesAlike_withSpacing hlinear hspaces)
    (Component.alike_refl_all hR children)

/-- The spacing of a row or column with no more than one child that takes part makes no difference
to any component of the tree, unless it is infinite and there is that child.  A negative zero makes
none but to the signs of zeros. -/
theorem compute_withSpacing (hat : Component.At t.root above i c)
    (hlinear : c.kind.linear? = some l) (halone : Component.flowCount ctx c.children ≤ 1)
    (hfinite : Component.flowCount ctx c.children = 1 →
      (spacing = .infinity ↔ l.spacing = .infinity)) (viewport : Size) (before : Layout) :
    let after := before.compute t ctx viewport
    let after' := before.compute (t.withSpacing i spacing) ctx viewport
    after.Alike Single.Agrees after' ∧
      ((spacing = .negZero ↔ l.spacing = .negZero) → after' = after) := by
  have hspaces {R : Single → Single → Prop} (hR : Congruence R)
      (h : l.spacing ≠ .infinity → spacing ≠ .infinity →
        R (l.spacing.extent * .zero) (spacing.extent * .zero)) :
      l.SpacesAlike R (Component.flowCount ctx c.children) (l.withSpacing spacing) := by
    refine LinearLayout.spacesAlike_of_le_one halone fun hone => ?_
    -- two infinite spacings are one and the same
    by_cases hinfinite : l.spacing = .infinity
    · rw [(hfinite hone).2 hinfinite, hinfinite]
      exact hR.refl _
    · exact h hinfinite (mt (hfinite hone).1 hinfinite)
  refine ⟨?_, fun hsign => ?_⟩
  · exact alike_compute_withSpacing Single.congruence_agrees hat hlinear
      (hspaces Single.congruence_agrees Single.agrees_extent_mul_zero) viewport before
  · refine (eq_of_alike (alike_compute_withSpacing Single.congruence_eq hat hlinear
      (hspaces Single.congruence_eq fun hl hspacing => ?_) viewport before)).symm
    rw [Single.extent_mul_zero hl, Single.extent_mul_zero hspacing]
    simp only [hsign]

/-- Beside a component that is gone a row has one child, which fills it. -/
theorem compute_withSpacing_row :
    let row : Component := .node ⟨2⟩ (.row ⟨.spaceAround, .center, .nan⟩) []
      [.node ⟨3⟩ .spacer [.width .fill] [], .node ⟨4⟩ .spacer [.visibility (.literal .gone)] []]
    let t : ComponentTree := ⟨.node ⟨1⟩ (.column ⟨.start, .start, .one⟩) [] [row, row]⟩
    let ctx : MeasureContext := ⟨.blank, fun _ _ => .empty⟩
    let viewport : Size := ⟨⟨0x42C80000⟩, ⟨0x42C80000⟩⟩
    Component.flowCount ctx row.children = 1 ∧
      Layout.empty.compute (t.withSpacing 1 ⟨0xFF800000⟩) ctx viewport =
        Layout.empty.compute t ctx viewport := by
  intro row t ctx viewport
  have hrow : Component.At t.root [0] (0 + 1 + Component.sizeAll []) row := .child .root
  have hcount : Component.flowCount ctx row.children = 1 := by decide +kernel
  refine ⟨hcount, (compute_withSpacing hrow rfl hcount.le ?_ viewport .empty).2 ?_⟩
  · decide
  · decide

/-- A row around a single child of some width has no width when its spacing is infinite. -/
theorem compute_infinite_spacing :
    let row (spacing : Single) : Component := .node ⟨1⟩ (.row ⟨.start, .start, spacing⟩) []
      [.node ⟨2⟩ .spacer [.width (.fixed ⟨0x41200000⟩)] []]
    let t : ComponentTree := ⟨row .zero⟩
    let ctx : MeasureContext := ⟨.blank, fun _ _ => .empty⟩
    let viewport : Size := ⟨⟨0x42C80000⟩, ⟨0x42C80000⟩⟩
    Content.ofOperations (row .zero).operations 2 = .ok ⟨.blank, [], t, []⟩ ∧
      Content.ofOperations (row .infinity).operations 2 =
        .ok ⟨.blank, [], t.withSpacing 0 .infinity, []⟩ ∧
      Component.flowCount ctx t.root.children = 1 ∧
      ((Layout.empty.compute t ctx viewport).bounds 0).size = ⟨⟨0x41200000⟩, .zero⟩ ∧
      ((Layout.empty.compute (t.withSpacing 0 .infinity) ctx viewport).bounds 0).size =
        .empty := by
  intro row t ctx viewport
  refine ⟨by cbv, by cbv, ?_⟩
  decide +kernel

end Layout

end Panel
