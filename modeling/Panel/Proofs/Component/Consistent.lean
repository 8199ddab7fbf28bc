import Mathlib.Data.List.Nodup
import Panel.Proofs.Component.Links

/-!
# Links, numbers and names

`ComponentTree.Consistent maxDepth t` collects what everything that follows the links of a tree
relies on.  Links up and links down are the same links, numbers grow downwards and to the right,
and so a component and all that is below it have consecutive numbers.
-/

namespace Panel.ComponentTree

open Component

/-- Links up, links down, numbers and names agree with each other. -/
structure Consistent (maxDepth : Nat) (t : ComponentTree) : Prop where
  root : ∃ n, t.node? 0 = some n
  parentless : ∀ i n, t.node? i = some n → (n.parent = none ↔ i = 0)
  /-- A component is once among the children of its parent, which has a smaller number. -/
  parent : ∀ i n p, t.node? i = some n → n.parent = some p →
    p < i ∧ ∃ m, t.node? p = some m ∧ m.children.count i = 1
  /-- A component is among the children of nothing else. -/
  children : ∀ p m i, t.node? p = some m → i ∈ m.children →
    ∃ n, t.node? i = some n ∧ n.parent = some p
  increasing : ∀ p m, t.node? p = some m → m.children.Pairwise (· < ·)
  indexOf : ∀ id i, t.indexOf? id = some i ↔ ∃ n, t.node? i = some n ∧ n.id = id
  /-- The walk down ends, with the numbers of a range that begins at the component. -/
  subtree : ∀ i n, t.node? i = some n → ∃ steps count, Walks t.nodes steps [i] (t.subtree i) ∧
    0 < count ∧ t.subtree i = List.range' i count
  /-- The climb up ends, at the root and before it is as long as trees may be deep. -/
  ancestors : ∀ i n, t.node? i = some n → (∃ steps, Climbs t.nodes steps n.parent (t.ancestors i)) ∧
    (i :: t.ancestors i).Pairwise (· > ·) ∧ (0 < i → (t.ancestors i).getLast? = some 0) ∧
    (t.ancestors i).length < maxDepth
  mem_subtree : ∀ i j n m, t.node? i = some n → t.node? j = some m →
    (j ∈ t.subtree i ↔ i = j ∨ i ∈ t.ancestors j)

variable {t : ComponentTree} {i : Nat} {n : Node}

/-- A node stands for a place. -/
theorem exists_at_of_node? (hnode : t.node? i = some n) :
    ∃ above children, At t.root above i (.node n.id n.kind n.modifiers children) ∧
      n.parent = above.head? ∧ n.children = numbering (i + 1) children := by
  obtain ⟨hi, -⟩ := List.getElem?_eq_some_iff.1 hnode
  rw [nodes, length_flatten] at hi
  obtain ⟨above, ⟨id, kind, modifiers, children⟩, h⟩ := exists_at hi
  have hself := h.getElem?_flatten
  rw [node?, nodes, hself] at hnode
  cases hnode
  exact ⟨above, children, h, rfl, rfl⟩

theorem mem_subtree_iff {above outer : List Nat} {j : Nat} {c d : Component}
    (hi : At t.root above i c) (hj : At t.root outer j d) :
    j ∈ t.subtree i ↔ i = j ∨ i ∈ t.ancestors j := by
  rw [subtree_eq hi, ancestors_eq hj, List.mem_range'_1]
  constructor
  · intro ⟨hle, hlt⟩
    obtain ⟨outer', d', hj', hpath⟩ := At.exists_within c hi hle hlt
    have houter : outer' = outer := by
      rw [← ancestors_eq hj, ← ancestors_eq hj']
    have hmem : i ∈ j :: outer := by
      rw [← houter]
      exact hpath.subset List.mem_cons_self
    exact List.mem_cons.1 hmem
  · rintro (rfl | hmem)
    · have hpos := c.size_pos
      omega
    · obtain ⟨above', c', hi', hlt, hle⟩ := hj.exists_of_mem_above i hmem
      have hsize : c'.size = c.size := by
        have hsubtree := (subtree_eq hi').symm.trans (subtree_eq hi)
        simpa using congrArg List.length hsubtree
      have hpos := d.size_pos
      omega

theorem At.node? {above : List Nat} {c : Component} (h : At t.root above i c) :
    ∃ n, t.node? i = some n ∧ n.parent = above.head? := by
  cases c
  exact ⟨_, h.getElem?_flatten, rfl⟩

theorem indexOf?_eq_some_iff (hnodup : (t.nodes.map (·.id)).Nodup) {id : ComponentId} :
    t.indexOf? id = some i ↔ ∃ n, t.node? i = some n ∧ n.id = id := by
  rw [indexOf?, List.findIdx?_eq_some_iff_getElem]
  constructor
  · intro ⟨hi, hid, _⟩
    exact ⟨t.nodes[i], List.getElem?_eq_getElem hi, of_decide_eq_true hid⟩
  · intro ⟨n, hnode, hid⟩
    obtain ⟨hi, rfl⟩ := List.getElem?_eq_some_iff.1 hnode
    refine ⟨hi, decide_eq_true hid, fun j hj hsame => ?_⟩
    apply List.nodup_iff_getElem?_ne_getElem?.1 hnodup j i hj (by rwa [List.length_map])
    rw [List.getElem?_map, List.getElem?_map, List.getElem?_eq_getElem hi,
      List.getElem?_eq_getElem (Nat.lt_trans hj hi)]
    simpa [hid] using hsame

theorem consistent {maxDepth : Nat} (hnodup : (t.nodes.map (·.id)).Nodup)
    (hdepth : ∀ above i c, At t.root above i c → above.length < maxDepth) :
    Consistent maxDepth t where
  root := by
    obtain ⟨n, hnode, -⟩ := At.node? (t := t) .root
    exact ⟨n, hnode⟩
  parentless := by
    intro i n hnode
    obtain ⟨above, children, h, hparent, -⟩ := exists_at_of_node? hnode
    rw [hparent]
    exact h.head?_above_eq_none
  parent := by
    intro i n p hnode hp
    obtain ⟨above, children, h, hparent, -⟩ := exists_at_of_node? hnode
    obtain ⟨outer, id, kind, modifiers, siblings, houter, hmem⟩ := h.exists_parent (hparent ▸ hp)
    obtain ⟨front, -, -, -, hi⟩ := mem_numbering.1 hmem
    refine ⟨by omega, _, houter.getElem?_flatten, ?_⟩
    have hnodup : (numbering (p + 1) siblings).Nodup := (pairwise_numbering _ _).imp Nat.ne_of_lt
    exact List.count_eq_one_of_mem hnodup hmem
  children := by
    intro p m i hnode hi
    obtain ⟨above, children, h, -, hchildren⟩ := exists_at_of_node? hnode
    rw [hchildren] at hi
    obtain ⟨front, c, back, rfl, rfl⟩ := mem_numbering.1 hi
    exact At.node? h.child
  increasing := by
    intro p m hnode
    obtain ⟨above, children, h, -, hchildren⟩ := exists_at_of_node? hnode
    rw [hchildren]
    exact pairwise_numbering _ _
  indexOf := fun _ _ => indexOf?_eq_some_iff hnodup
  subtree := by
    intro i n hnode
    obtain ⟨above, children, h, -⟩ := exists_at_of_node? hnode
    have hwalks := h.walks .done
    rw [List.append_nil] at hwalks
    rw [subtree_eq h]
    exact ⟨_, _, hwalks, size_pos _, rfl⟩
  ancestors := by
    intro i n hnode
    obtain ⟨above, children, h, hparent, -⟩ := exists_at_of_node? hnode
    rw [ancestors_eq h, hparent]
    refine ⟨⟨_, h.climbs⟩, h.pairwise_above, fun hi => ?_, hdepth _ _ _ h⟩
    have hlast := h.getLast?_above
    cases above with
    | nil => exact absurd (h.head?_above_eq_none.1 rfl) (by omega)
    | cons p above => rwa [List.getLast?_cons_cons] at hlast
  mem_subtree := by
    intro i j n m hi hj
    obtain ⟨above, _, hi, -⟩ := exists_at_of_node? hi
    obtain ⟨outer, _, hj, -⟩ := exists_at_of_node? hj
    exact mem_subtree_iff hi hj

end Panel.ComponentTree
