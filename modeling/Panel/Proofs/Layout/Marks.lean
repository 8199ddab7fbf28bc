import Panel.Touch.Dispatch

/-!
# What has to be done again

Marks only add to what has to be done again.  Invalidating components asks for everything to be
done for each of them, all that is below it and all that is above it, and for nothing else but
painting the root.
-/

namespace Panel

namespace DirtyFlags

theorem union_all (f : DirtyFlags) : f.union all = all := by
  simp [union, all]

theorem all_union (f : DirtyFlags) : all.union f = all := rfl

theorem union_none (f : DirtyFlags) : f.union none = f := by
  simp [union, none]

end DirtyFlags

namespace Layout

variable {l : Layout} {i index : Nat} {flags : DirtyFlags} {t : ComponentTree}
  {components : List Nat}

theorem size_mark (l : Layout) (index : Nat) (flags : DirtyFlags) :
    (l.mark index flags).size = l.size :=
  List.length_modify _ _ _

theorem dirty_mark (hi : i < l.size) :
    (l.mark index flags).dirty i =
      if i = index then (l.dirty i).union flags else l.dirty i := by
  rw [dirty, dirty, mark, List.getElem?_modify]
  by_cases h : i = index
  · rw [if_pos h, h, List.getElem?_eq_getElem (h ▸ hi)]
    simp
  · rw [if_neg h]
    simp [Ne.symm h]

theorem size_markAll (l : Layout) (indices : List Nat) (flags : DirtyFlags) :
    (l.markAll indices flags).size = l.size := by
  induction indices generalizing l with
  | nil => rfl
  | cons index indices ih =>
      rw [markAll, List.foldl_cons, ← markAll, ih, size_mark]

theorem markAll_append (l : Layout) (front back : List Nat) (flags : DirtyFlags) :
    l.markAll (front ++ back) flags = (l.markAll front flags).markAll back flags :=
  List.foldl_append

theorem dirty_markAll {indices : List Nat} (hi : i < l.size) :
    (l.markAll indices .all).dirty i = if i ∈ indices then .all else l.dirty i := by
  induction indices generalizing l with
  | nil => rfl
  | cons index indices ih =>
      have hsize := l.size_mark index .all
      rw [markAll, List.foldl_cons, ← markAll, ih (hsize ▸ hi), dirty_mark hi,
        DirtyFlags.union_all]
      by_cases h : i = index
      · simp [h]
      · simp [h]

/-- All that has to be done again when components change. -/
def touched (t : ComponentTree) (components : List Nat) : List Nat :=
  components.flatMap fun i => t.subtree i ++ t.ancestors i

theorem invalidate_eq (l : Layout) (t : ComponentTree) (components : List Nat) :
    l.invalidate t components = (l.markAll (touched t components) .all).mark 0 .paintOnly := by
  rw [invalidate]
  congr 1
  induction components generalizing l with
  | nil => rfl
  | cons i components ih =>
      rw [List.foldl_cons, ih, touched, touched, List.flatMap_cons, markAll_append, markAll_append]

theorem size_invalidate (l : Layout) (t : ComponentTree) (components : List Nat) :
    (l.invalidate t components).size = l.size := by
  rw [invalidate_eq, size_mark, size_markAll]

theorem dirty_invalidate (hi : i < l.size) :
    (l.invalidate t components).dirty i =
      (if i ∈ touched t components then .all else l.dirty i).union
        (if i = 0 then .paintOnly else .none) := by
  have hsize := l.size_markAll (touched t components) .all
  rw [invalidate_eq, dirty_mark (hsize ▸ hi), dirty_markAll hi]
  by_cases h : i = 0
  · rw [if_pos h, if_pos h]
  · rw [if_neg h, if_neg h, DirtyFlags.union_none]

theorem dirty_invalidate_of_mem (hi : i < l.size) (h : i ∈ touched t components) :
    (l.invalidate t components).dirty i = .all := by
  rw [dirty_invalidate hi, if_pos h, DirtyFlags.all_union]

/-! ## Anything at all -/

theorem anyDirty_of_isDirty (hi : i < l.size) (h : l.isDirty i = true) : l.anyDirty = true := by
  rw [isDirty, dirty, List.getElem?_eq_getElem hi] at h
  exact List.any_eq_true.2 ⟨_, List.getElem_mem hi, h⟩

/-- The root, at least, is dirty when something was invalidated. -/
theorem anyDirty_invalidate (h : 0 < l.size) :
    (l.invalidate t components).anyDirty = true := by
  have hsize := l.size_invalidate t components
  apply anyDirty_of_isDirty (hsize ▸ h)
  rw [isDirty, dirty_invalidate h]
  simp [DirtyFlags.union, DirtyFlags.isEmpty, DirtyFlags.paintOnly]

end Layout

end Panel
