import Panel.Proofs.Component.Position

/-!
# Following the links

The walks over the links have no bound of their own: `Walks` and `Climbs` say that a walk comes to
its end, after how many steps and with what result.  In the nodes of a tree every walk does, within
the number of steps that `ComponentTree.subtree` and `ComponentTree.ancestors` allow.
-/

namespace Panel

namespace ComponentTree

/-- The walk down from the numbers on a stack ends after a number of steps. -/
inductive Walks (nodes : List Node) : Nat → List Nat → List Nat → Prop where
  | done : Walks nodes 0 [] []
  | visit {i n steps stack out} (hnode : nodes[i]? = some n)
      (hrest : Walks nodes steps (n.children ++ stack) out) :
      Walks nodes (steps + 1) (i :: stack) (i :: out)
  | skip {i steps stack out} (hnode : nodes[i]? = none) (hrest : Walks nodes steps stack out) :
      Walks nodes (steps + 1) (i :: stack) out

/-- The climb up from a number ends after a number of steps. -/
inductive Climbs (nodes : List Node) : Nat → Option Nat → List Nat → Prop where
  | done : Climbs nodes 0 none []
  | up {i steps out} (hrest : Climbs nodes steps (nodes[i]?.bind (·.parent)) out) :
      Climbs nodes (steps + 1) (some i) (i :: out)

variable {nodes : List Node} {steps bound : Nat} {out : List Nat}

theorem Walks.walk_eq {stack : List Nat} (h : Walks nodes steps stack out) (hle : steps ≤ bound) :
    walk nodes bound stack = out := by
  induction h generalizing bound with
  | done => cases bound <;> rfl
  | visit hnode _ ih =>
      rcases bound with _ | bound
      · omega
      · rw [walk, hnode]
        exact congrArg _ (ih (by omega))
  | skip hnode _ ih =>
      rcases bound with _ | bound
      · omega
      · rw [walk, hnode]
        exact ih (by omega)

theorem Climbs.climb_eq {current : Option Nat} (h : Climbs nodes steps current out)
    (hle : steps ≤ bound) : climb nodes bound current = out := by
  induction h generalizing bound with
  | done => cases bound <;> rfl
  | up _ ih =>
      rcases bound with _ | bound
      · omega
      · rw [climb]
        exact congrArg _ (ih (by omega))

end ComponentTree

namespace Component

open ComponentTree

variable {root : Component} {above : List Nat} {i : Nat}

theorem At.climbs {c : Component} (h : At root above i c) :
    Climbs (root.flatten none 0) above.length above.head? above := by
  induction h with
  | root => exact .done
  | child h ih =>
      apply Climbs.up
      rw [h.getElem?_flatten]
      exact ih

mutual

/-- The walk visits a component and everything below it before it goes on with the stack. -/
theorem At.walks {steps : Nat} {stack out : List Nat}
    (hstack : Walks (root.flatten none 0) steps stack out) :
    (c : Component) → {above : List Nat} → {i : Nat} → At root above i c →
      Walks (root.flatten none 0) (c.size + steps) (i :: stack) (List.range' i c.size ++ out)
  | node id kind modifiers children, above, i, h => by
      have hchildren := At.walksAll hstack [] children h
      rw [size, Nat.add_comm 1, Nat.add_right_comm, List.range'_succ]
      exact .visit h.getElem?_flatten hchildren

theorem At.walksAll {steps : Nat} {stack out : List Nat}
    (hstack : Walks (root.flatten none 0) steps stack out) {above : List Nat} {i : Nat}
    {id : ComponentId} {kind : ComponentKind} {modifiers : Modifiers} (front : List Component) :
    (cs : List Component) → At root above i (node id kind modifiers (front ++ cs)) →
      Walks (root.flatten none 0) (sizeAll cs + steps)
        (numbering (i + 1 + sizeAll front) cs ++ stack)
        (List.range' (i + 1 + sizeAll front) (sizeAll cs) ++ out)
  | [], _ => by simpa [numbering, sizeAll] using hstack
  | c :: rest, h => by
      have hsize : i + 1 + sizeAll (front ++ [c]) = i + 1 + sizeAll front + c.size := by
        rw [sizeAll_concat, ← Nat.add_assoc]
      have hrest := At.walksAll hstack (front ++ [c]) rest (by
        rwa [List.append_assoc, List.singleton_append])
      rw [hsize] at hrest
      have hfirst := At.walks hrest c (.child h)
      rw [← List.append_assoc, List.range'_append_1, ← Nat.add_assoc] at hfirst
      exact hfirst

end

end Component

namespace ComponentTree

open Component

variable {t : ComponentTree} {above : List Nat} {i : Nat} {c : Component}

theorem subtree_eq (h : At t.root above i c) : t.subtree i = List.range' i c.size := by
  have hwalks := h.walks .done c
  have hle := h.add_size_le
  rw [List.append_nil] at hwalks
  exact hwalks.walk_eq (by rw [size]; omega)

theorem parent_eq (h : At t.root above i c) : (t.node? i).bind (·.parent) = above.head? := by
  cases c
  rw [node?, nodes, h.getElem?_flatten]
  rfl

theorem ancestors_eq (h : At t.root above i c) : t.ancestors i = above := by
  have hlength := h.length_above_le
  have hsize := h.add_size_le
  rw [ancestors, parent_eq h]
  apply h.climbs.climb_eq
  rw [size]
  omega

end ComponentTree

end Panel
