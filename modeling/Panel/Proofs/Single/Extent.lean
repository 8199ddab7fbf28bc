import Panel.Layout.Space

/-!
# Extents

A number counts as an extent if it is one and is not below zero.  `Single.extent` makes an extent of
any pattern, and leaves extents as they are.  Whatever a component asks for and whatever its content
comes to, its own size and the space that it leaves to its content are extents; and unless it asks
for a fixed size, it is no larger than its space.
-/

namespace Panel

namespace Single

/-- A number that is not below zero. -/
structure IsExtent (x : Single) : Prop where
  isNaN : x.isNaN = false
  lt : x.lt .zero = false

instance (x : Single) : Decidable x.IsExtent :=
  decidable_of_iff (x.isNaN = false ∧ x.lt .zero = false)
    ⟨fun h => ⟨h.1, h.2⟩, fun h => ⟨h.isNaN, h.lt⟩⟩

variable {x y : Single}

theorem isExtent_zero : zero.IsExtent := by decide

theorem isExtent_extent (x : Single) : x.extent.IsExtent := by
  unfold extent
  split
  · exact isExtent_zero
  · next hcounts =>
      rw [Bool.or_eq_true, not_or, Bool.not_eq_true, Bool.not_eq_true] at hcounts
      exact ⟨hcounts.1, hcounts.2⟩

theorem IsExtent.extent_eq (h : x.IsExtent) : x.extent = x := by
  rw [extent, h.isNaN, h.lt]
  rfl

theorem extent_of_isNaN (h : x.isNaN = true) : x.extent = .zero := by
  rw [extent, h]
  rfl

theorem extent_of_lt_zero (h : x.lt .zero = true) : x.extent = .zero := by
  rw [extent, h, Bool.or_true]
  rfl

theorem lt_of_isNaN (h : x.isNaN = true) (y : Single) : x.lt y = false := by
  rw [lt, h]
  rfl

theorem le_self (h : x.isNaN = false) : x.le x = true := by
  rw [le, h, decide_eq_true (Int.le_refl _)]
  rfl

theorem le_of_not_lt (hx : x.isNaN = false) (hy : y.isNaN = false) (h : y.lt x = false) :
    x.le y = true := by
  rw [lt, hx, hy] at h
  rw [le, hx, hy]
  simpa using h

theorem IsExtent.zero_le (h : x.IsExtent) : zero.le x = true :=
  le_of_not_lt isExtent_zero.isNaN h.isNaN h.lt

/-- A not-a-number gives way to the other operand. -/
theorem min_of_isNaN (h : x.isNaN = true) (y : Single) : x.min y = y := if_pos h

/-- What is below zero is the smaller operand beside an extent. -/
theorem min_of_lt_zero (h : x.lt .zero = true) (hy : y.IsExtent) : x.min y = x := by
  have hx : x.isNaN = false := by
    cases hx : x.isNaN with
    | false => rfl
    | true => rw [lt_of_isNaN hx] at h; contradiction
  have hlt : y.lt x = false := by
    have hnonneg := hy.lt
    rw [lt, hy.isNaN, isExtent_zero.isNaN] at hnonneg
    rw [lt, hx, isExtent_zero.isNaN] at h
    rw [lt, hx, hy.isNaN]
    simp only [Bool.not_false, Bool.true_and, decide_eq_true_iff, decide_eq_false_iff_not] at *
    omega
  rw [min, hx, hlt]
  rfl

/-- An extent that is cut off at a limit is at most the limit. -/
theorem IsExtent.extent_min_le (h : y.IsExtent) (x : Single) : (x.min y).extent.le y = true := by
  unfold min
  split
  · rw [h.extent_eq]
    exact le_self h.isNaN
  · next hx =>
      rw [Bool.not_eq_true] at hx
      split
      · rw [h.extent_eq]
        exact le_self h.isNaN
      · next hlt =>
          rw [Bool.not_eq_true] at hlt
          unfold extent
          split
          · exact h.zero_le
          · exact le_of_not_lt hx h.isNaN hlt

end Single

/-- A limit, if there is one, is an extent. -/
def Space.Counts (space : Space) : Prop := ∀ limit, space = some limit → limit.IsExtent

/-- Both limits, as far as there are any, are extents. -/
structure Room.Counts (room : Room) : Prop where
  width : room.width.Counts
  height : room.height.Counts

theorem Space.counts_none : Space.Counts none := nofun

theorem Space.counts_map_extent (space : Space) (f : Single → Single) :
    Space.Counts (space.map fun limit => (f limit).extent) := by
  intro limit hlimit
  obtain ⟨_, -, rfl⟩ := Option.map_eq_some_iff.1 hlimit
  exact Single.isExtent_extent _

theorem Space.counts_ofViewport (extent : Single) : (Space.ofViewport extent).Counts := by
  intro limit hlimit
  unfold ofViewport at hlimit
  split at hlimit
  · next hpositive =>
      obtain rfl := Option.some.inj hlimit
      rw [Single.lt, Bool.and_eq_true, Bool.and_eq_true, decide_eq_true_iff] at hpositive
      obtain ⟨⟨-, hnumber⟩, hlt⟩ := hpositive
      rw [Bool.not_eq_true'] at hnumber
      refine ⟨hnumber, ?_⟩
      rw [Single.lt, hnumber, decide_eq_false (by omega), Bool.and_false]
  · contradiction

theorem Room.counts_ofViewport (viewport : Size) : (Room.ofViewport viewport).Counts :=
  ⟨Space.counts_ofViewport _, Space.counts_ofViewport _⟩

namespace Dimension

variable {d : Dimension} {space : Space} {content limit : Single}

theorem isExtent_resolve (d : Dimension) (space : Space) (content : Single) :
    (d.resolve space content).IsExtent := by
  cases d with
  | fixed units => exact Single.isExtent_extent units
  | fill => cases space <;> exact Single.isExtent_extent _
  | wrap => cases space <;> exact Single.isExtent_extent _

/-- Whoever asks for no fixed size keeps within the space. -/
theorem resolve_le (hd : ∀ units, d ≠ .fixed units) (h : limit.IsExtent) :
    (d.resolve (some limit) content).le limit = true := by
  cases d with
  | fixed units => exact absurd rfl (hd units)
  | fill =>
      show limit.extent.le limit = true
      rw [h.extent_eq]
      exact Single.le_self h.isNaN
  | wrap => exact h.extent_min_le content

/-- Content below zero comes to nothing.  So does content that is not a number, but only where
there is no limit; the limit stands in for it where there is one. -/
theorem wrap_resolve_of_collapsed (hspace : space.Counts)
    (h : content.isNaN = true ∨ content.lt .zero = true) :
    wrap.resolve space content = if content.isNaN then space.getD .zero else .zero := by
  cases hnan : content.isNaN with
  | true =>
      cases space with
      | none => exact Single.extent_of_isNaN hnan
      | some limit =>
          show (content.min limit).extent = limit
          rw [Single.min_of_isNaN hnan, (hspace limit rfl).extent_eq]
  | false =>
      have hlt : content.lt .zero = true := h.resolve_left (by rw [hnan]; exact Bool.false_ne_true)
      cases space with
      | none => exact Single.extent_of_lt_zero hlt
      | some limit =>
          show (content.min limit).extent = .zero
          rw [Single.min_of_lt_zero hlt (hspace limit rfl), Single.extent_of_lt_zero hlt]

theorem counts_inner (d : Dimension) (space : Space) (padding : Single) :
    (d.inner space padding).Counts :=
  Space.counts_map_extent _ (· - padding)

end Dimension

end Panel
