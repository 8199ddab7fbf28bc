import Panel.Component.Tree
import Panel.Proofs.Component.Operations

/-!
# Places in a tree

`At root above i c` says that the component with number `i` is `c`, and that the components with
the numbers `above` are those around it, the nearest first.  Every number of the tree is that of
such a place, and the list of nodes holds at `i` what the place says.
-/

namespace Panel.Component

/-! ## Numbers -/

theorem sizeAll_append (front back : List Component) :
    sizeAll (front ++ back) = sizeAll front + sizeAll back := by
  induction front with
  | nil => simp [sizeAll]
  | cons c front ih =>
      rw [List.cons_append, sizeAll, sizeAll, ih]
      omega

theorem sizeAll_concat (front : List Component) (c : Component) :
    sizeAll (front ++ [c]) = sizeAll front + c.size := by
  rw [sizeAll_append, sizeAll, sizeAll, Nat.add_zero]

theorem size_pos (c : Component) : 0 < c.size := by
  cases c
  rw [size]
  omega

mutual

theorem length_flatten (parent : Option Nat) (index : Nat) :
    (c : Component) → (c.flatten parent index).length = c.size
  | node id kind modifiers children => by
      rw [flatten, List.length_cons, length_flattenAll index (index + 1) children, size]
      omega

theorem length_flattenAll (parent index : Nat) :
    (cs : List Component) → (flattenAll parent index cs).length = sizeAll cs
  | [] => rfl
  | c :: rest => by
      rw [flattenAll, List.length_append, length_flatten _ _ c, length_flattenAll _ _ rest, sizeAll]

end

theorem flattenAll_append (parent index : Nat) (front back : List Component) :
    flattenAll parent index (front ++ back) =
      flattenAll parent index front ++ flattenAll parent (index + sizeAll front) back := by
  induction front generalizing index with
  | nil => rfl
  | cons c front ih =>
      rw [List.cons_append, flattenAll, flattenAll, ih, List.append_assoc, sizeAll, Nat.add_assoc]

theorem mem_numbering {index i : Nat} {cs : List Component} :
    i ∈ numbering index cs ↔
      ∃ front c back, cs = front ++ c :: back ∧ i = index + sizeAll front := by
  induction cs generalizing index with
  | nil => simp [numbering]
  | cons c cs ih =>
      rw [numbering, List.mem_cons, ih]
      constructor
      · rintro (rfl | ⟨front, d, back, rfl, rfl⟩)
        · exact ⟨[], c, cs, rfl, rfl⟩
        · exact ⟨c :: front, d, back, rfl, by rw [sizeAll, Nat.add_assoc]⟩
      · rintro ⟨_ | ⟨e, front⟩, d, back, hsplit, rfl⟩
        · exact .inl rfl
        · obtain ⟨rfl, rfl⟩ := List.cons.inj hsplit
          exact .inr ⟨front, d, back, rfl, by rw [sizeAll, Nat.add_assoc]⟩

theorem pairwise_numbering (index : Nat) (cs : List Component) :
    (numbering index cs).Pairwise (· < ·) := by
  induction cs generalizing index with
  | nil => exact .nil
  | cons c cs ih =>
      refine List.pairwise_cons.2 ⟨fun i hi => ?_, ih (index + c.size)⟩
      obtain ⟨front, -, -, -, rfl⟩ := mem_numbering.1 hi
      have hpos := c.size_pos
      omega

/-! ## Places -/

/-- What has the number `i`, and the numbers of the components around it. -/
inductive At (root : Component) : List Nat → Nat → Component → Prop where
  | root : At root [] 0 root
  | child {above i id kind modifiers front c back}
      (h : At root above i (node id kind modifiers (front ++ c :: back))) :
      At root (i :: above) (i + 1 + sizeAll front) c

namespace At

variable {root c : Component} {above : List Nat} {i : Nat}

/-- The nodes of the whole tree hold those of every part, one after the other. -/
theorem flatten_eq (h : At root above i c) :
    ∃ before after, root.flatten none 0 = before ++ c.flatten above.head? i ++ after ∧
      before.length = i := by
  induction h with
  | root => exact ⟨[], [], by simp, rfl⟩
  | @child above i id kind modifiers front c back _ ih =>
      obtain ⟨before, after, hflatten, hlength⟩ := ih
      rw [flatten, flattenAll_append, flattenAll] at hflatten
      let self : Node := ⟨id, kind, modifiers, above.head?, numbering (i + 1) (front ++ c :: back)⟩
      refine ⟨before ++ self :: flattenAll i (i + 1) front,
        flattenAll i (i + 1 + sizeAll front + c.size) back ++ after, ?_, ?_⟩
      · rw [hflatten]
        simp [self]
      · simp [length_flattenAll, hlength]
        omega

theorem getElem?_flatten {id : ComponentId} {kind : ComponentKind} {modifiers : Modifiers}
    {children : List Component} (h : At root above i (node id kind modifiers children)) :
    (root.flatten none 0)[i]? =
      some ⟨id, kind, modifiers, above.head?, numbering (i + 1) children⟩ := by
  obtain ⟨before, after, hflatten, rfl⟩ := h.flatten_eq
  rw [hflatten, flatten]
  simp

theorem add_size_le (h : At root above i c) : i + c.size ≤ root.size := by
  obtain ⟨before, after, hflatten, rfl⟩ := h.flatten_eq
  have hlength := congrArg List.length hflatten
  simp only [List.length_append, length_flatten] at hlength
  omega

/-- The number of a component is above those of everything around it. -/
theorem pairwise_above (h : At root above i c) : (i :: above).Pairwise (· > ·) := by
  induction h with
  | root => exact List.pairwise_singleton _ _
  | @child above i _ _ _ front _ _ _ ih =>
      refine List.pairwise_cons.2 ⟨fun k hk => ?_, ih⟩
      rcases List.mem_cons.1 hk with rfl | hk
      · omega
      · have := List.rel_of_pairwise_cons ih hk
        omega

theorem getLast?_above (h : At root above i c) : (i :: above).getLast? = some 0 := by
  induction h with
  | root => rfl
  | child _ ih => rw [List.getLast?_cons_cons, ih]

theorem length_above_le (h : At root above i c) : above.length ≤ i := by
  induction h with
  | root => exact Nat.le_refl 0
  | child _ ih =>
      rw [List.length_cons]
      omega

theorem head?_above_eq_none (h : At root above i c) : above.head? = none ↔ i = 0 := by
  cases h with
  | root => simp
  | child => simp

theorem exists_parent {p : Nat} (h : At root above i c) (hp : above.head? = some p) :
    ∃ outer id kind modifiers children, At root outer p (node id kind modifiers children) ∧
      i ∈ numbering (p + 1) children := by
  cases h with
  | root => contradiction
  | @child above p' id kind modifiers front _ back h =>
      obtain rfl : p' = p := by simpa using hp
      exact ⟨above, id, kind, modifiers, _, h, mem_numbering.2 ⟨front, c, back, rfl, rfl⟩⟩

/-- A component lies within each of those around it. -/
theorem exists_of_mem_above (h : At root above i c) :
    ∀ k ∈ above, ∃ outer d, At root outer k d ∧ k < i ∧ i + c.size ≤ k + d.size := by
  induction h with
  | root => exact fun k hk => absurd hk List.not_mem_nil
  | @child above i id kind modifiers front c back h ih =>
      have hsize : (node id kind modifiers (front ++ c :: back)).size =
          1 + (sizeAll front + (c.size + sizeAll back)) := by
        rw [size, sizeAll_append, sizeAll]
      intro k hk
      rcases List.mem_cons.1 hk with rfl | hk
      · exact ⟨above, _, h, by omega, by omega⟩
      · obtain ⟨outer, d, hd, hlt, hle⟩ := ih k hk
        exact ⟨outer, d, hd, by omega, by omega⟩

end At

mutual

/-- Every number within a component is that of a place whose path goes through the component. -/
theorem At.exists_within {root : Component} {above : List Nat} {i j : Nat} :
    (c : Component) → At root above i c → i ≤ j → j < i + c.size →
      ∃ outer d, At root outer j d ∧ i :: above <:+ j :: outer
  | node id kind modifiers children, h, hle, hlt => by
      by_cases hj : j = i
      · subst hj
        exact ⟨above, _, h, List.suffix_refl _⟩
      · rw [size] at hlt
        exact At.exists_withinAll [] children h (by rw [sizeAll]; omega) (by rw [sizeAll]; omega)

theorem At.exists_withinAll {root : Component} {above : List Nat} {i j : Nat} {id : ComponentId}
    {kind : ComponentKind} {modifiers : Modifiers} (front : List Component) :
    (cs : List Component) → At root above i (node id kind modifiers (front ++ cs)) →
      i + 1 + sizeAll front ≤ j → j < i + 1 + sizeAll front + sizeAll cs →
      ∃ outer d, At root outer j d ∧ i :: above <:+ j :: outer
  | [], h, hle, hlt => by
      rw [sizeAll] at hlt
      omega
  | c :: rest, h, hle, hlt => by
      by_cases hj : j < i + 1 + sizeAll front + c.size
      · obtain ⟨outer, d, hd, hpath⟩ := At.exists_within c (.child h) hle hj
        exact ⟨outer, d, hd, (List.suffix_cons _ _).trans hpath⟩
      · rw [sizeAll] at hlt
        have hsize := sizeAll_concat front c
        apply At.exists_withinAll (front ++ [c]) rest
        · rwa [List.append_assoc, List.singleton_append]
        · omega
        · omega

end

/-- Every number of the tree is that of a place. -/
theorem exists_at {root : Component} {i : Nat} (hi : i < root.size) :
    ∃ above c, At root above i c := by
  obtain ⟨above, c, h, -⟩ := At.exists_within root .root (Nat.zero_le i) (by omega)
  exact ⟨above, c, h⟩

end Panel.Component
