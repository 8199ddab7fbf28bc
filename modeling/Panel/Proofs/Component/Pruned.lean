import Panel.Proofs.Component.Position

/-!
# Pruned trees

To prune a tree is to take a component away from it, with everything below.  What a walk lists for
the pruned tree is what it lists for the tree with one part cut out, the part for that component.
-/

namespace Panel

/-! ## Lists with a part cut out -/

/-- The list `v` is `u` without `part`, which begins at position `i`. -/
def Cut {α : Type} (part : List α) (i : Nat) (u v : List α) : Prop :=
  ∃ front back, u = front ++ part ++ back ∧ v = front ++ back ∧ front.length = i

namespace Cut

variable {α β : Type} {part u v : List α} {i : Nat}

theorem append (h : Cut part i u v) (before after : List α) :
    Cut part (before.length + i) (before ++ u ++ after) (before ++ v ++ after) := by
  obtain ⟨front, back, rfl, rfl, rfl⟩ := h
  exact ⟨before ++ front, back ++ after, by simp, by simp, by simp⟩

theorem cons (h : Cut part i u v) (a : α) : Cut part (1 + i) (a :: u) (a :: v) := by
  obtain ⟨front, back, rfl, rfl, rfl⟩ := h
  exact ⟨a :: front, back, rfl, rfl, by rw [List.length_cons, Nat.add_comm]⟩

theorem replicate (a : α) {n kept : Nat} (h : i ≤ kept) :
    Cut (List.replicate n a) i (List.replicate (kept + n) a) (List.replicate kept a) := by
  refine ⟨List.replicate i a, List.replicate (kept - i) a, ?_, ?_, List.length_replicate⟩
  · rw [List.replicate_append_replicate, List.replicate_append_replicate]
    congr 1
    omega
  · rw [List.replicate_append_replicate]
    congr 1
    omega

theorem zip {part' u' v' : List β} (h : Cut part i u v) (h' : Cut part' i u' v')
    (hlength : part.length = part'.length) :
    Cut (part.zip part') i (u.zip u') (v.zip v') := by
  obtain ⟨front, back, rfl, rfl, hfront⟩ := h
  obtain ⟨front', back', rfl, rfl, hfront'⟩ := h'
  have hfronts : front.length = front'.length := hfront.trans hfront'.symm
  refine ⟨front.zip front', back.zip back', ?_, ?_, ?_⟩
  · rw [List.zip_append (by simp [hfronts, hlength]), List.zip_append hfronts]
  · rw [List.zip_append hfronts]
  · rw [List.length_zip, hfront, hfront', Nat.min_self]

theorem getElem?_of_lt (h : Cut part i u v) {j : Nat} (hj : j < i) : v[j]? = u[j]? := by
  obtain ⟨front, back, rfl, rfl, rfl⟩ := h
  rw [List.append_assoc, List.getElem?_append_left hj, List.getElem?_append_left hj]

theorem getElem?_part (h : Cut part i u v) {j : Nat} (hj : j < part.length) :
    u[i + j]? = part[j]? := by
  obtain ⟨front, back, rfl, rfl, rfl⟩ := h
  rw [List.append_assoc, List.getElem?_append_right (Nat.le_add_right _ _), Nat.add_sub_cancel_left,
    List.getElem?_append_left hj]

theorem getElem?_of_le (h : Cut part i u v) {j : Nat} (hj : i ≤ j) :
    v[j]? = u[j + part.length]? := by
  obtain ⟨front, back, rfl, rfl, rfl⟩ := h
  have hlength : (front ++ part).length ≤ j + part.length := by
    rw [List.length_append]
    omega
  rw [List.getElem?_append_right hj, List.getElem?_append_right hlength, List.length_append]
  congr 1
  omega

theorem exists_getElem?_eq (h : Cut part i u v) (k : Nat) :
    ∃ j : Nat, v[k]? = u[j]? ∧ (j < i ∨ i + part.length ≤ j) := by
  by_cases hk : k < i
  · exact ⟨k, h.getElem?_of_lt hk, .inl hk⟩
  · exact ⟨k + part.length, h.getElem?_of_le (by omega), .inr (by omega)⟩

theorem exists_getElem?_eq_of_outside (h : Cut part i u v) {j : Nat}
    (hj : j < i ∨ i + part.length ≤ j) : ∃ k : Nat, v[k]? = u[j]? := by
  rcases hj with hj | hj
  · exact ⟨j, h.getElem?_of_lt hj⟩
  · refine ⟨j - part.length, ?_⟩
    rw [h.getElem?_of_le (by omega), Nat.sub_add_cancel (by omega)]

end Cut

/-! ## Nodes without links -/

/-- The node without its links. -/
def Node.unlinked (n : Node) : Node := { n with parent := none, children := [] }

theorem Node.id_eq_of_unlinked_eq {m n : Node} (h : m.unlinked = n.unlinked) : m.id = n.id := by
  have hid : m.unlinked.id = n.unlinked.id := by rw [h]
  exact hid

namespace Component

mutual

/-- The nodes of a tree by number, without their links. -/
def unlinked : Component → List Node
  | node id kind modifiers children => ⟨id, kind, modifiers, none, []⟩ :: unlinkedAll children

/-- The nodes of consecutive trees, without their links. -/
def unlinkedAll : List Component → List Node
  | [] => []
  | c :: rest => c.unlinked ++ unlinkedAll rest

end

theorem unlinkedAll_append (front back : List Component) :
    unlinkedAll (front ++ back) = unlinkedAll front ++ unlinkedAll back := by
  induction front with
  | nil => rfl
  | cons c front ih =>
      rw [List.cons_append, unlinkedAll, unlinkedAll, ih, List.append_assoc]

mutual

theorem map_unlinked_flatten (parent : Option Nat) (index : Nat) :
    (c : Component) → (c.flatten parent index).map Node.unlinked = c.unlinked
  | node id kind modifiers children => by
      rw [flatten, List.map_cons, map_unlinked_flattenAll index (index + 1) children, unlinked]
      rfl

theorem map_unlinked_flattenAll (parent index : Nat) :
    (cs : List Component) → (flattenAll parent index cs).map Node.unlinked = unlinkedAll cs
  | [] => rfl
  | c :: rest => by
      rw [flattenAll, List.map_append, map_unlinked_flatten _ _ c, map_unlinked_flattenAll _ _ rest,
        unlinkedAll]

end

theorem length_unlinked (c : Component) : c.unlinked.length = c.size := by
  rw [← map_unlinked_flatten none 0, List.length_map, length_flatten]

theorem length_unlinkedAll (cs : List Component) : (unlinkedAll cs).length = sizeAll cs := by
  rw [← map_unlinked_flattenAll 0 0, List.length_map, length_flattenAll]

/-! ## Pruning -/

/-- Taking `c` away from `d` leaves `e`.  Counted from the top of `d`, the number of `c` is `i`. -/
inductive Pruned (c : Component) : Nat → Component → Component → Prop where
  | child {id kind modifiers front back} :
      Pruned c (1 + sizeAll front) (node id kind modifiers (front ++ c :: back))
        (node id kind modifiers (front ++ back))
  | deeper {i d e id kind modifiers front back} (h : Pruned c i d e) :
      Pruned c (1 + sizeAll front + i) (node id kind modifiers (front ++ d :: back))
        (node id kind modifiers (front ++ e :: back))

/-- Every component but the root can be taken away. -/
theorem At.exists_pruned {root c : Component} {parent i : Nat} {above : List Nat}
    (h : At root (parent :: above) i c) : ∃ e, Pruned c i root e := by
  -- what is taken away from a part is taken away from the whole
  have hwithin {above : List Nat} {k : Nat} {d : Component} (hd : At root above k d) :
      ∀ j e, Pruned c j d e → ∃ e, Pruned c (k + j) root e := by
    induction hd with
    | root =>
        intro j e he
        rw [Nat.zero_add]
        exact ⟨e, he⟩
    | @child above k id kind modifiers front d back _ ih =>
        intro j e he
        have hdeeper : Pruned c (1 + sizeAll front + j)
            (node id kind modifiers (front ++ d :: back))
            (node id kind modifiers (front ++ e :: back)) := .deeper he
        obtain ⟨e, he⟩ := ih _ _ hdeeper
        rw [← Nat.add_assoc, ← Nat.add_assoc] at he
        exact ⟨e, he⟩
  cases h with
  | child h =>
      obtain ⟨e, he⟩ := hwithin h _ _ .child
      rw [← Nat.add_assoc] at he
      exact ⟨e, he⟩

namespace Pruned

variable {c d e : Component} {i : Nat}

theorem kind_eq (h : Pruned c i d e) : e.kind = d.kind := by
  cases h <;> rfl

theorem modifiers_eq (h : Pruned c i d e) : e.modifiers = d.modifiers := by
  cases h <;> rfl

theorem size_eq (h : Pruned c i d e) : d.size = e.size + c.size := by
  induction h with
  | child =>
      rw [size, size, sizeAll_append, sizeAll_append, sizeAll]
      omega
  | deeper _ ih =>
      rw [size, size, sizeAll_append, sizeAll_append, sizeAll, sizeAll, ih]
      omega

theorem le_size (h : Pruned c i d e) : i ≤ e.size := by
  induction h with
  | child =>
      rw [size, sizeAll_append]
      omega
  | deeper _ ih =>
      rw [size, sizeAll_append, sizeAll]
      omega

theorem isContainer (h : Pruned c i d e) (hd : d.Proper) : d.kind.isContainer = true := by
  cases h with
  | child => exact hd.parts.1
  | deeper => exact hd.parts.1

theorem proper (h : Pruned c i d e) (hd : d.Proper) : c.Proper ∧ e.Proper := by
  induction h with
  | child =>
      obtain ⟨hkind, hc, hfront, hback⟩ := hd.parts
      exact ⟨hc, .container hkind (List.forall_mem_append.2 ⟨hfront, hback⟩)⟩
  | deeper _ ih =>
      obtain ⟨hkind, hchild, hfront, hback⟩ := hd.parts
      obtain ⟨hc, he⟩ := ih hchild
      have hchildren := List.forall_mem_append.2 ⟨hfront, List.forall_mem_cons.2 ⟨he, hback⟩⟩
      exact ⟨hc, .container hkind hchildren⟩

theorem cut_unlinked (h : Pruned c i d e) : Cut c.unlinked i d.unlinked e.unlinked := by
  induction h with
  | @child id kind modifiers front back =>
      refine ⟨⟨id, kind, modifiers, none, []⟩ :: unlinkedAll front, unlinkedAll back, ?_, ?_, ?_⟩
      · simp [unlinked, unlinkedAll_append, unlinkedAll]
      · simp [unlinked, unlinkedAll_append]
      · rw [List.length_cons, length_unlinkedAll, Nat.add_comm]
  | @deeper i d e id kind modifiers front back _ ih =>
      have hcut := (ih.append (unlinkedAll front) (unlinkedAll back)).cons
        ⟨id, kind, modifiers, none, []⟩
      rw [length_unlinkedAll, ← Nat.add_assoc] at hcut
      simpa [unlinked, unlinkedAll_append, unlinkedAll] using hcut

end Pruned

end Component

end Panel
