import Panel.Proofs.Component.Position

/-!
# One component changed

`Component.modify` changes the component with some number, with everything below it, and leaves the
rest of the tree.
-/

namespace Panel.Component

mutual

/-- The tree with a change to the component that has a number. -/
def modify (f : Component → Component) : Nat → Component → Component
  | 0, c => f c
  | i + 1, node id kind modifiers children => node id kind modifiers (modifyAll f i children)

/-- The consecutive trees with a change to the component that has a number. -/
def modifyAll (f : Component → Component) : Nat → List Component → List Component
  | _, [] => []
  | i, c :: rest =>
    if i < c.size then c.modify f i :: rest else c :: modifyAll f (i - c.size) rest

end

variable {f : Component → Component} {i : Nat}

theorem modifyAll_append (front : List Component) {d : Component} (hi : i < d.size)
    (back : List Component) :
    modifyAll f (sizeAll front + i) (front ++ d :: back) = front ++ d.modify f i :: back := by
  induction front with
  | nil => rw [sizeAll, Nat.zero_add, List.nil_append, modifyAll, if_pos hi, List.nil_append]
  | cons c front ih =>
      rw [sizeAll, List.cons_append, modifyAll, if_neg (by omega), Nat.add_assoc,
        Nat.add_sub_cancel_left, ih, List.cons_append]

/-- A change below a component is a change to one of its children. -/
theorem modify_node {id : ComponentId} {kind : ComponentKind} {modifiers : Modifiers}
    (front : List Component) {d : Component} (hi : i < d.size) (back : List Component) :
    (node id kind modifiers (front ++ d :: back)).modify f (1 + sizeAll front + i) =
      node id kind modifiers (front ++ d.modify f i :: back) := by
  rw [Nat.add_assoc, Nat.add_comm 1, modify, modifyAll_append front hi back]

/-- What a change to a component makes of it decides what it makes of every tree around it, for any
relation that trees keep when a child is put in the place of another. -/
theorem At.rel_modify {S : Component → Component → Prop} {root c : Component} {above : List Nat}
    (h : At root above i c)
    (hchild : ∀ {id kind modifiers front d d' back}, S d d' →
      S (node id kind modifiers (front ++ d :: back))
        (node id kind modifiers (front ++ d' :: back)))
    (hc : S c (f c)) : S root (root.modify f i) := by
  -- a change at number `j` within the part at number `k` is one at number `k + j` of the whole
  have hwithin {above : List Nat} {k : Nat} {d : Component} (hd : At root above k d) :
      ∀ j, j < d.size → S d (d.modify f j) → S root (root.modify f (k + j)) := by
    induction hd with
    | root =>
        intro j _ hS
        rwa [Nat.zero_add]
    | @child above k id kind modifiers front d back _ ih =>
        intro j hj hS
        have hsize :
            1 + sizeAll front + j < (node id kind modifiers (front ++ d :: back)).size := by
          rw [size, sizeAll_append, sizeAll]
          omega
        have hwhole := ih (1 + sizeAll front + j) hsize (by
          rw [modify_node front hj back]
          exact hchild hS)
        rwa [← Nat.add_assoc, ← Nat.add_assoc] at hwhole
  have hwhole := hwithin h 0 c.size_pos (by rwa [modify])
  rwa [Nat.add_zero] at hwhole

end Panel.Component
