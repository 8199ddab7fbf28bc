import Panel.Proofs.Component.Pruned
import Panel.Proofs.Paint.Drawn

/-!
# What is to be seen

What painting calls for, and what hit testing answers, follow from the list of what is to be seen:
the components that are drawn, in order, each with its bounds and without its links or number.  Two
layouts that agree on parts of two trees show the same there.
-/

namespace Panel

namespace Component

/-- The node of a component, without its links. -/
def top (c : Component) : Node := ⟨c.id, c.kind, c.modifiers, none, []⟩

theorem paint_eq_top (store : Store) (bounds : Bounds) (c : Component) :
    c.paint store bounds = c.top.paint store bounds := by
  cases c
  rfl

end Component

namespace Layout

/-- What is to be seen of a tree whose top has number `index`. -/
def seen (l : Layout) (index : Nat) (c : Component) : List (Node × Bounds) :=
  (l.shown index c).map fun entry => (entry.2.top, l.bounds entry.1)

/-- What is to be seen of consecutive trees, the first of which has number `index`. -/
def seenAll (l : Layout) (index : Nat) (cs : List Component) : List (Node × Bounds) :=
  (l.shownAll index cs).map fun entry => (entry.2.top, l.bounds entry.1)

variable {l l' : Layout} {k k' count : Nat}

theorem seen_node (l : Layout) (k : Nat) (id : ComponentId) (kind : ComponentKind)
    (modifiers : Modifiers) (cs : List Component) :
    l.seen k (.node id kind modifiers cs) =
      if l.isShown k then (⟨id, kind, modifiers, none, []⟩, l.bounds k) :: l.seenAll (k + 1) cs
      else [] := by
  rw [seen, shown, seenAll]
  split <;> rfl

theorem seen_of_not_isShown (h : l.isShown k = false) (c : Component) : l.seen k c = [] := by
  cases c
  rw [seen_node, h]
  rfl

theorem seenAll_cons (l : Layout) (k : Nat) (c : Component) (rest : List Component) :
    l.seenAll k (c :: rest) = l.seen k c ++ l.seenAll (k + c.size) rest := by
  rw [seenAll, shownAll, List.map_append]
  rfl

theorem seenAll_append (l : Layout) (k : Nat) (front back : List Component) :
    l.seenAll k (front ++ back) = l.seenAll k front ++
      l.seenAll (k + Component.sizeAll front) back := by
  induction front generalizing k with
  | nil => rfl
  | cons c front ih =>
      rw [List.cons_append, seenAll_cons, seenAll_cons, ih, List.append_assoc, Component.sizeAll,
        Nat.add_assoc]

/-! ## Agreement -/

/-- Two layouts say the same of `count` components, from number `k` on in one and from number `k'`
on in the other. -/
def Agrees (l : Layout) (k : Nat) (l' : Layout) (k' count : Nat) : Prop :=
  ∀ j < count, l'.isShown (k' + j) = l.isShown (k + j) ∧
    (l.isShown (k + j) = true → l'.bounds (k' + j) = l.bounds (k + j))

theorem Agrees.part {m m' size : Nat} (h : Agrees l k l' k' count) (first : Nat)
    (hm : m = k + first) (hm' : m' = k' + first) (hle : first + size ≤ count) :
    Agrees l m l' m' size := by
  intro j hj
  rw [hm, hm', Nat.add_assoc, Nat.add_assoc]
  exact h (first + j) (by omega)

/-- A component is seen alike if its top and everything below it is. -/
theorem Agrees.seen_node (h : Agrees l k l' k' count) (hcount : 0 < count) {id : ComponentId}
    {kind : ComponentKind} {modifiers : Modifiers} {cs ds : List Component}
    (hchildren : l'.seenAll (k' + 1) ds = l.seenAll (k + 1) cs) :
    l'.seen k' (.node id kind modifiers ds) = l.seen k (.node id kind modifiers cs) := by
  obtain ⟨hshown, hbounds⟩ := h 0 hcount
  rw [Nat.add_zero, Nat.add_zero] at hshown hbounds
  rw [Layout.seen_node, Layout.seen_node, hshown, hchildren]
  cases htop : l.isShown k with
  | false => rfl
  | true => rw [hbounds htop]

mutual

theorem Agrees.seen_eq {l l' : Layout} {k k' : Nat} :
    (c : Component) → Agrees l k l' k' c.size → l'.seen k' c = l.seen k c
  | .node id kind modifiers children, h => by
      have hsize : (Component.node id kind modifiers children).size =
          1 + Component.sizeAll children := by rw [Component.size]
      exact h.seen_node (by omega) (Agrees.seenAll_eq children (h.part 1 rfl rfl (by omega)))

theorem Agrees.seenAll_eq {l l' : Layout} {k k' : Nat} :
    (cs : List Component) → Agrees l k l' k' (Component.sizeAll cs) →
      l'.seenAll k' cs = l.seenAll k cs
  | [], _ => rfl
  | c :: rest, h => by
      rw [Component.sizeAll] at h
      rw [seenAll_cons, seenAll_cons, Agrees.seen_eq c (fun j hj => h j (by omega)),
        Agrees.seenAll_eq rest (h.part c.size rfl rfl (Nat.le_refl _))]

end

end Layout

/-- Nothing is to be seen of a component that does not show, so that the tree without it shows the
same. -/
theorem Component.Pruned.seen_eq {c d e : Component} {i k k' : Nat} {l l' : Layout}
    (h : Pruned c i d e) (hbefore : l.Agrees k l' k' i) (hgone : l.isShown (k + i) = false)
    (hafter : l.Agrees (k + i + c.size) l' (k' + i) (e.size - i)) :
    l'.seen k' e = l.seen k d := by
  -- the numbers of all that comes after the component are lower by its size in `e`
  induction h generalizing k k' with
  | @child id kind modifiers front back =>
      have hsize : (node id kind modifiers (front ++ back)).size =
          1 + (sizeAll front + sizeAll back) := by
        rw [size, sizeAll_append]
      have hfront : l'.seenAll (k' + 1) front = l.seenAll (k + 1) front :=
        Layout.Agrees.seenAll_eq front (hbefore.part 1 rfl rfl (Nat.le_refl _))
      have hback : l'.seenAll (k' + 1 + sizeAll front) back =
          l.seenAll (k + 1 + sizeAll front + c.size) back :=
        Layout.Agrees.seenAll_eq back (hafter.part 0 (by omega) (by omega) (by omega))
      rw [← Nat.add_assoc] at hgone
      apply hbefore.seen_node (by omega)
      rw [Layout.seenAll_append, Layout.seenAll_append, Layout.seenAll_cons,
        Layout.seen_of_not_isShown hgone, List.nil_append, hfront, hback]
  | @deeper i d e id kind modifiers front back h ih =>
      have hsize : (node id kind modifiers (front ++ e :: back)).size =
          1 + (sizeAll front + (e.size + sizeAll back)) := by
        rw [size, sizeAll_append, sizeAll]
      have hpruned := h.size_eq
      have hle := h.le_size
      have hfront : l'.seenAll (k' + 1) front = l.seenAll (k + 1) front :=
        Layout.Agrees.seenAll_eq front (hbefore.part 1 rfl rfl (by omega))
      have hback : l'.seenAll (k' + 1 + sizeAll front + e.size) back =
          l.seenAll (k + 1 + sizeAll front + d.size) back :=
        Layout.Agrees.seenAll_eq back
          (hafter.part (e.size - i) (by omega) (by omega) (by omega))
      have hchild : l'.seen (k' + 1 + sizeAll front) e = l.seen (k + 1 + sizeAll front) d := by
        apply ih
        · exact hbefore.part (1 + sizeAll front) (by omega) (by omega) (by omega)
        · rwa [Nat.add_assoc k, Nat.add_assoc k]
        · exact hafter.part 0 (by omega) (by omega) (by omega)
      apply hbefore.seen_node (by omega)
      rw [Layout.seenAll_append, Layout.seenAll_append, Layout.seenAll_cons, Layout.seenAll_cons,
        hfront, hchild, hback]

/-! ## Painting and hit testing -/

namespace ComponentTree

variable {t : ComponentTree} {l : Layout}

theorem paint_eq_seen (t : ComponentTree) (store : Store) (l : Layout) :
    t.paint store l = (l.seen 0 t.root).flatMap fun entry => entry.1.paint store entry.2 := by
  rw [Layout.seen, List.flatMap_map]
  simp only [paint, Component.paint_eq_top]

theorem paintedCount_eq_seen (t : ComponentTree) (l : Layout) :
    t.paintedCount l = (l.seen 0 t.root).length := by
  rw [Layout.seen, List.length_map, paintedCount]

/-- What holds of every component by its number holds of those that are painted. -/
theorem forall_mem_shown {P : Nat → Component → Prop}
    (h : ∀ above i c, Component.At t.root above i c → P i c) :
    ∀ entry ∈ l.shown 0 t.root, P entry.1 entry.2 := by
  classical
  have hall := flatMap_shown (t := t) (l := l) (f := fun i c => if P i c then [] else [()])
    (g := fun _ => []) fun above i c hat => if_pos (h above i c hat)
  rw [List.flatMap_eq_nil_iff.2 fun _ _ => rfl, List.flatMap_eq_nil_iff] at hall
  intro entry hentry
  by_contra hnot
  have hnil := hall entry hentry
  rw [if_neg hnot] at hnil
  contradiction

/-- The name of the topmost drawn component at a point. -/
def hitName? (t : ComponentTree) (l : Layout) (p : Point) : Option ComponentId :=
  (t.hit? l p).bind fun i => (t.node? i).map (·.id)

theorem hitName?_eq_seen (t : ComponentTree) (l : Layout) (p : Point) :
    t.hitName? l p =
      ((l.seen 0 t.root).filter fun entry => entry.2.contains p).getLast?.map (·.1.id) := by
  have hdrawn : (l.shown 0 t.root).map Prod.fst = t.drawn l := by
    have hnumbers := flatMap_shown (t := t) (l := l) (f := fun i _ => [i]) (g := fun i => [i])
      fun _ _ _ _ => rfl
    rwa [← List.map_eq_flatMap, ← List.map_eq_flatMap, List.map_id'] at hnumbers
  have hname := forall_mem_shown (t := t) (l := l)
    (P := fun i c => (t.node? i).map (·.id) = some c.id) fun above i c hat => by
      obtain ⟨id, kind, modifiers, children⟩ := c
      rw [node?, nodes, hat.getElem?_flatten]
      rfl
  rw [hitName?, hit?_eq, ← hdrawn, Layout.seen, List.filter_map, List.filter_map,
    List.getLast?_map, List.getLast?_map, Option.map_map]
  -- both sides read the last of the same entries, one by its number, the other by its node
  change (Option.map Prod.fst ((l.shown 0 t.root).filter fun entry =>
    (l.bounds entry.1).contains p).getLast?).bind _ = ((l.shown 0 t.root).filter fun entry =>
      (l.bounds entry.1).contains p).getLast?.map _
  cases hlast : ((l.shown 0 t.root).filter fun entry =>
      (l.bounds entry.1).contains p).getLast? with
  | none => rfl
  | some entry => exact hname entry (List.mem_filter.1 (List.mem_of_getLast? hlast)).1

end ComponentTree

end Panel
