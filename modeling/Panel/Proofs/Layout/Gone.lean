import Panel.Proofs.Content.Deletion
import Panel.Proofs.Layout.Found
import Panel.Proofs.Paint.Seen

/-!
# Gone is as good as absent

A component that is gone could as well be deleted from the document: the remaining components are
laid out, painted and hit as before.
-/

namespace Panel

namespace ComponentTree

variable {t t' : ComponentTree} {c : Component} {ctx : MeasureContext} {viewport : Size}
  {i j k : Nat} {n m : Node}

theorem eq_of_id_eq (hnodup : (t.nodes.map (·.id)).Nodup) (hj : t.node? j = some n)
    (hk : t.node? k = some m) (hid : m.id = n.id) : j = k := by
  have hindex := (indexOf?_eq_some_iff hnodup).2 ⟨n, hj, rfl⟩
  rw [(indexOf?_eq_some_iff hnodup).2 ⟨m, hk, hid⟩] at hindex
  exact (Option.some.inj hindex).symm

/-- What is left after pruning was outside the part. -/
theorem exists_node?_of_pruned (h : Component.Pruned c i t.root t'.root)
    (hnode : t'.node? k = some m) :
    ∃ j n, t.node? j = some n ∧ n.unlinked = m.unlinked ∧ (j < i ∨ i + c.size ≤ j) := by
  obtain ⟨j, hj, houtside⟩ := h.cut_unlinked.exists_getElem?_eq k
  rw [getElem?_unlinked, getElem?_unlinked, hnode, Option.map_some, eq_comm,
    Option.map_eq_some_iff] at hj
  obtain ⟨n, hn, hunlinked⟩ := hj
  rw [Component.length_unlinked] at houtside
  exact ⟨j, n, hn, hunlinked, houtside⟩

/-- Just the names in the component are missing from the tree without it. -/
theorem indexOf?_pruned (h : Component.Pruned c i t.root t'.root)
    (hnodup : (t.nodes.map (·.id)).Nodup) (hnodup' : (t'.nodes.map (·.id)).Nodup)
    (hnode : t.node? j = some n) :
    t'.indexOf? n.id = none ↔ i ≤ j ∧ j < i + c.size := by
  constructor
  · intro hnone
    by_contra hinside
    obtain ⟨k, hk⟩ := h.cut_unlinked.exists_getElem?_eq_of_outside (j := j) (by
      rw [Component.length_unlinked]
      omega)
    rw [getElem?_unlinked, getElem?_unlinked, hnode, Option.map_some,
      Option.map_eq_some_iff] at hk
    obtain ⟨m, hm, hunlinked⟩ := hk
    rw [(indexOf?_eq_some_iff hnodup').2 ⟨m, hm, Node.id_eq_of_unlinked_eq hunlinked⟩] at hnone
    contradiction
  · intro ⟨hle, hlt⟩
    by_contra hsome
    obtain ⟨k, hk⟩ := Option.ne_none_iff_exists'.1 hsome
    obtain ⟨m, hm, hid⟩ := (indexOf?_eq_some_iff hnodup').1 hk
    obtain ⟨j', n', hn', hunlinked, houtside⟩ := exists_node?_of_pruned h hm
    have hsame := eq_of_id_eq hnodup hnode hn' ((Node.id_eq_of_unlinked_eq hunlinked).trans hid)
    omega

end ComponentTree

/-! ## Layouts with and without the component -/

/-- A layout of a tree and one of another tree say the same of the components of the other tree, and
they show the same. -/
structure ShowsSame (store : Store) (t : ComponentTree) (l : Layout) (t' : ComponentTree)
    (l' : Layout) : Prop where
  /-- A component is placed or not as the one of the same name, and at the same place. -/
  placed : ∀ j n k, t.node? j = some n → t'.indexOf? n.id = some k →
    l'.isPlaced k = l.isPlaced j ∧ (l.isPlaced j = true → l'.bounds k = l.bounds j)
  paint : t'.paint store l' = t.paint store l
  paintedCount : t'.paintedCount l' = t.paintedCount l
  hitName : ∀ p, t'.hitName? l' p = t.hitName? l p

namespace Layout

variable {t t' : ComponentTree} {c : Component} {ctx : MeasureContext} {viewport : Size} {i : Nat}

/-- Where passes find the same, they lead to the same. -/
theorem agrees_of_found {k k' count : Nat} (l l' : Layout) (hproper : t.root.Proper)
    (hle : k + count ≤ t.size)
    (h : ∀ j < count, (t'.found ctx viewport)[k' + j]? = (t.found ctx viewport)[k + j]?) :
    (l.compute t ctx viewport).Agrees k (l'.compute t' ctx viewport) k' count := by
  intro j hj
  have hlt : k + j < t.nodes.length := by
    rw [ComponentTree.length_nodes]
    omega
  obtain ⟨bounds, hfound⟩ : ∃ bounds, (t.found ctx viewport)[k + j]? = some (_, bounds) :=
    ComponentTree.exists_found_of_node? hproper (List.getElem?_eq_getElem hlt)
  have hfound' := (h j hj).trans hfound
  obtain ⟨hplaced, hshown, hbounds⟩ := l.compute_found hfound
  obtain ⟨-, hshown', hbounds'⟩ := l'.compute_found hfound'
  refine ⟨hshown'.trans hshown.symm, fun htrue => ?_⟩
  rw [isShown, Bool.and_eq_true] at htrue
  obtain ⟨b, rfl⟩ := Option.isSome_iff_exists.1 (hplaced.symm.trans htrue.1)
  rw [hbounds b rfl, hbounds' b rfl]

theorem seen_compute_pruned (h : Component.Pruned c i t.root t'.root) (hproper : t.root.Proper)
    (habsent : ctx.takesPart c = false) (l l' : Layout) :
    (l'.compute t' ctx viewport).seen 0 t'.root = (l.compute t ctx viewport).seen 0 t.root := by
  have hcut : Cut _ i (t.found ctx viewport) (t'.found ctx viewport) :=
    ComponentTree.cut_found h hproper habsent
  have hlength : (c.unlinked.zip (List.replicate c.size (none : Option Bounds))).length =
      c.size := by
    rw [List.length_zip, Component.length_unlinked, List.length_replicate, Nat.min_self]
  have hsize : t.size = t'.root.size + c.size := h.size_eq
  have hle := h.le_size
  -- before the component numbers are the same, and after it they are lower by its size in `t'`
  apply h.seen_eq
  · apply agrees_of_found l l' hproper
    · omega
    · intro j hj
      rw [Nat.zero_add]
      exact hcut.getElem?_of_lt hj
  · obtain ⟨n, hfirst⟩ : ∃ n,
        (c.unlinked.zip (List.replicate c.size (none : Option Bounds)))[0]? = some (n, none) := by
      obtain ⟨id, kind, modifiers, children⟩ := c
      rw [Component.size, Nat.add_comm, List.replicate_succ, Component.unlinked]
      exact ⟨_, rfl⟩
    have hfound := hcut.getElem?_part (hlength ▸ c.size_pos)
    rw [hfirst] at hfound
    rw [Nat.zero_add]
    exact (l.compute_found hfound).2.1
  · apply agrees_of_found l l' hproper
    · omega
    · intro j hj
      have hfound := hcut.getElem?_of_le (Nat.le_add_right i j)
      rw [hlength] at hfound
      rw [Nat.zero_add, hfound]
      congr 1
      omega

/-- A component that is gone could as well be missing. -/
theorem showsSame_compute_pruned (h : Component.Pruned c i t.root t'.root)
    (hproper : t.root.Proper) (hnodup : (t.nodes.map (·.id)).Nodup)
    (hnodup' : (t'.nodes.map (·.id)).Nodup) (habsent : ctx.takesPart c = false) (l l' : Layout) :
    ShowsSame ctx.store t (l.compute t ctx viewport) t' (l'.compute t' ctx viewport) := by
  have hseen : (l'.compute t' ctx viewport).seen 0 t'.root =
      (l.compute t ctx viewport).seen 0 t.root := seen_compute_pruned h hproper habsent l l'
  constructor
  · intro j n k hj hk
    obtain ⟨m, hm, hid⟩ := (ComponentTree.indexOf?_eq_some_iff hnodup').1 hk
    obtain ⟨bounds', hfound'⟩ : ∃ bounds, (t'.found ctx viewport)[k]? = some (_, bounds) :=
      ComponentTree.exists_found_of_node? (h.proper hproper).2 hm
    obtain ⟨j', hfound, -⟩ := (ComponentTree.cut_found h hproper habsent).exists_getElem?_eq k
    rw [hfound'] at hfound
    obtain ⟨n', hn', hunlinked⟩ := ComponentTree.exists_node?_of_found hfound.symm
    obtain rfl : j = j' := ComponentTree.eq_of_id_eq hnodup hj hn'
      ((Node.id_eq_of_unlinked_eq hunlinked).trans hid)
    obtain ⟨hplaced, -, hbounds⟩ := l.compute_found hfound.symm
    obtain ⟨hplaced', -, hbounds'⟩ := l'.compute_found hfound'
    refine ⟨hplaced'.trans hplaced.symm, fun htrue => ?_⟩
    obtain ⟨b, rfl⟩ := Option.isSome_iff_exists.1 (hplaced.symm.trans htrue)
    rw [hbounds b rfl, hbounds' b rfl]
  · rw [ComponentTree.paint_eq_seen, ComponentTree.paint_eq_seen, hseen]
  · rw [ComponentTree.paintedCount_eq_seen, ComponentTree.paintedCount_eq_seen, hseen]
  · intro p
    rw [ComponentTree.hitName?_eq_seen, ComponentTree.hitName?_eq_seen, hseen]

end Layout

/-! ## Documents with and without the component -/

namespace Content

variable {operations : List Operation} {maxDepth : Nat} {content : Content}

/-- Any component but the root can be deleted from a document.  Just the names of the component and
of all below it are missing then, and while the component is gone everything shows as before. -/
theorem ofOperations_without_gone {parent i : Nat} {above : List Nat} {c : Component}
    (h : ofOperations operations maxDepth = .ok content)
    (hat : Component.At content.tree.root (parent :: above) i c) :
    (∃ remaining, Deletes c.operations operations remaining) ∧
      ∀ remaining, Deletes c.operations operations remaining →
        ∃ content', ofOperations remaining maxDepth = .ok content' ∧
          content'.store = content.store ∧ content'.derived = content.derived ∧
          content'.actions = content.actions ∧
          (∀ j n, content.tree.node? j = some n →
            (content'.tree.indexOf? n.id = none ↔ j ∈ content.tree.subtree i)) ∧
          ∀ (ctx : MeasureContext) (viewport : Size) (l l' : Layout),
            Modifiers.resolvedVisibility ctx.store c.modifiers = .gone →
              ShowsSame ctx.store content.tree (l.compute content.tree ctx viewport)
                content'.tree (l'.compute content'.tree ctx viewport) := by
  obtain ⟨e, hpruned⟩ := hat.exists_pruned
  refine ⟨exists_deletes h hpruned, fun remaining hdeletes => ?_⟩
  have h' := ofOperations_of_deletes h hpruned hdeletes
  have hnodup := nodup_ids_of_ofOperations h
  have hnodup' := nodup_ids_of_ofOperations h'
  refine ⟨_, h', rfl, rfl, rfl, fun j n hnode => ?_, fun ctx viewport l l' hgone => ?_⟩
  · rw [ComponentTree.subtree_eq hat, List.mem_range'_1]
    exact ComponentTree.indexOf?_pruned hpruned hnodup hnodup' hnode
  · have habsent : ctx.takesPart c = false := by
      rw [MeasureContext.takesPart, hgone]
      rfl
    exact Layout.showsSame_compute_pruned hpruned (root_of_ofOperations h).2 hnodup hnodup' habsent
      l l'

theorem ofOperations_without_gone_box :
    let box : Component := .node ⟨2⟩ (.box ⟨.start, .start⟩) [.visibility (.literal .gone)]
      [.node ⟨3⟩ .spacer [] []]
    let operations : List Operation :=
      [.component ⟨1⟩ (.column ⟨.start, .center, .one⟩), .modifier (.visibility (.literal .gone)),
        .component ⟨2⟩ (.box ⟨.start, .start⟩), .value ⟨7⟩ (.int 0), .component ⟨3⟩ .spacer,
        .containerEnd, .component ⟨4⟩ .spacer, .containerEnd]
    let remaining : List Operation :=
      [.component ⟨1⟩ (.column ⟨.start, .center, .one⟩), .value ⟨7⟩ (.int 0),
        .component ⟨4⟩ .spacer, .containerEnd]
    ∃ content content', ofOperations operations 3 = .ok content ∧
      Component.At content.tree.root [0] 1 box ∧ Deletes box.operations operations remaining ∧
      ofOperations remaining 3 = .ok content' ∧ ∀ ctx viewport,
        Modifiers.resolvedVisibility ctx.store box.modifiers = .gone ∧
          ShowsSame ctx.store content.tree (Layout.empty.compute content.tree ctx viewport)
            content'.tree (Layout.empty.compute content'.tree ctx viewport) := by
  intro box operations remaining
  have hcontent : ofOperations operations 3 =
      .ok ⟨⟨[⟨⟨7⟩, .int 0, false⟩], [], 8⟩, [],
        ⟨.node ⟨1⟩ (.column ⟨.start, .center, .one⟩) [] ([] ++ box :: [.node ⟨4⟩ .spacer [] []])⟩,
        []⟩ := by cbv
  have hdeletes : Deletes box.operations operations remaining :=
    ⟨[.component ⟨1⟩ (.column ⟨.start, .center, .one⟩)],
      [.modifier (.visibility (.literal .gone)), .component ⟨2⟩ (.box ⟨.start, .start⟩),
        .value ⟨7⟩ (.int 0), .component ⟨3⟩ .spacer, .containerEnd],
      [.component ⟨4⟩ .spacer, .containerEnd], rfl, rfl, rfl⟩
  obtain ⟨content', hcontent', -, -, -, -, hshows⟩ :=
    (ofOperations_without_gone hcontent (.child .root)).2 remaining hdeletes
  exact ⟨_, content', hcontent, .child .root, hdeletes, hcontent', fun ctx viewport =>
    ⟨rfl, hshows ctx viewport .empty .empty rfl⟩⟩

end Content

end Panel
