import Panel.Layout.Arrays
import Panel.Proofs.Layout.InPlace

/-!
# Passes over arrays

No write of a pass over the arrays of a layout is outside of them, and the pass makes of the arrays
the arrays of what it makes of the layout.  So they keep the length of the tree.
-/

namespace Panel

/-! ## Writing over lists -/

section

variable {α β γ : Type} {f : γ → α} {g : γ → γ} {ps : List γ} {i : Nat}

theorem update?_map {h : α → α} (hg : ∀ p, f (g p) = h (f p)) (hi : i < ps.length) :
    update? (ps.map f) i h = some ((ps.modify i g).map f) := by
  have hmodify : ps.modify i g = ps.set i (g ps[i]) := by
    rw [List.modify_eq_set_getElem?, List.getElem?_eq_getElem hi]
    rfl
  rw [update?, List.getElem?_map, List.getElem?_eq_getElem hi, hmodify, List.map_set, hg]
  rfl

/-- A write keeps what it does not change. -/
theorem map_modify (hg : ∀ p, f (g p) = f p) (ps : List γ) (i : Nat) :
    (ps.modify i g).map f = ps.map f := by
  apply List.ext_getElem
  · simp
  · intro j _ _
    rw [List.getElem_map, List.getElem_map, List.getElem_modify]
    split
    · exact hg _
    · rfl

/-- The entry behind a front part has the length of that part as its number. -/
theorem update?_append_cons (front back : List α) (a : α) (h : α → α) :
    update? (front ++ a :: back) front.length h = some (front ++ h a :: back) := by
  rw [update?, List.getElem?_append_right (Nat.le_refl _), Nat.sub_self]
  simp

theorem updateEach?_append {write : α → β → α} (front l : List α) (bs : List β)
    (h : l.length = bs.length) :
    updateEach? write front.length (front ++ l) bs = some (front ++ List.zipWith write l bs) := by
  induction bs generalizing front l with
  | nil =>
      obtain rfl := List.length_eq_zero_iff.1 h
      rfl
  | cons b bs ih =>
      cases l with
      | nil => contradiction
      | cons a l =>
          have hwrite : update? (front ++ a :: l) front.length (write · b) =
              some ((front ++ [write a b]) ++ l) := by
            rw [update?_append_cons, List.append_assoc, List.singleton_append]
          have hrest := ih (front ++ [write a b]) l (Nat.succ.inj h)
          rw [List.length_append] at hrest
          rw [updateEach?, hwrite, List.zipWith_cons_cons]
          exact hrest.trans (by rw [List.append_assoc, List.singleton_append])

theorem updateEach?_eq {write : α → β → α} {l : List α} {bs : List β}
    (h : l.length = bs.length) : updateEach? write 0 l bs = some (List.zipWith write l bs) :=
  updateEach?_append [] l bs h

/-- Of each entry, a pairwise write keeps what it does not change. -/
theorem map_zipWith_kept {δ : Type} {write : γ → δ → γ} (hwrite : ∀ p b, f (write p b) = f p)
    {bs : List δ} (h : bs.length = ps.length) : (List.zipWith write ps bs).map f = ps.map f := by
  apply List.ext_getElem
  · simp [h]
  · intro j _ _
    rw [List.getElem_map, List.getElem_map, List.getElem_zipWith]
    exact hwrite _ _

end

/-! ## The arrays of a pass -/

namespace LayoutPass

/-- The pass over the arrays of the layout. -/
def arrays (s : LayoutPass) : ArrayPass := ⟨s.layout.arrays, s.reached⟩

/-- The pass is over a number of components. -/
structure Fits (s : LayoutPass) (count : Nat) : Prop where
  layout : s.layout.placements.length = count
  reached : s.reached.length = count

variable {s : LayoutPass} {count index : Nat}

theorem takesPart_arrays (s : LayoutPass) : s.arrays.takesPart = s.takesPart := by
  funext i
  rw [ArrayPass.takesPart, takesPart, LayoutArrays.visibilityAt, Layout.visibility]
  dsimp only [arrays, Layout.arrays]
  rw [List.getElem?_map]

theorem sizeAt_arrays (s : LayoutPass) : s.arrays.arrays.sizeAt = s.size := by
  funext i
  rw [LayoutArrays.sizeAt, size, Layout.bounds]
  dsimp only [arrays, Layout.arrays]
  rw [List.getElem?_map, List.getElem?_map]
  cases s.layout.placements[i]? <;> rfl

theorem sizes_arrays (s : LayoutPass) (index : Nat) (cs : List Component) :
    s.arrays.sizes index cs = s.sizes index cs := by
  rw [ArrayPass.sizes, sizes, takesPart_arrays, sizeAt_arrays]

theorem fillCount_arrays (s : LayoutPass) (axis : Axis) (index : Nat) (cs : List Component) :
    s.arrays.fillCount axis index cs = s.fillCount axis index cs := by
  rw [ArrayPass.fillCount, fillCount, takesPart_arrays]

theorem Fits.writeSize (h : s.Fits count) (index : Nat) (size : Size) :
    (s.writeSize index size).Fits count where
  layout := (List.length_modify ..).trans h.layout
  reached := List.length_set.trans h.reached

theorem Fits.writeOrigin (h : s.Fits count) (index : Nat) (origin : Point) :
    (s.writeOrigin index origin).Fits count where
  layout := (List.length_modify ..).trans h.layout
  reached := h.reached

theorem Fits.writeSize?_arrays (h : s.Fits count) (hindex : index < count) (size : Size) :
    s.arrays.writeSize? index size = some (s.writeSize index size).arrays := by
  have hlayout : index < s.layout.placements.length := h.layout ▸ hindex
  have hreached : index < s.reached.length := h.reached ▸ hindex
  have hwidth : update? s.arrays.arrays.width index (fun _ => size.width) =
      some (s.writeSize index size).arrays.arrays.width := update?_map (fun _ => rfl) hlayout
  have hheight : update? s.arrays.arrays.height index (fun _ => size.height) =
      some (s.writeSize index size).arrays.arrays.height := update?_map (fun _ => rfl) hlayout
  have hphase : update? s.arrays.arrays.phase index (fun _ => .measured) =
      some (s.writeSize index size).arrays.arrays.phase := update?_map (fun _ => rfl) hlayout
  have hmark : update? s.arrays.reached index (fun _ => true) =
      some (s.writeSize index size).arrays.reached := by
    rw [update?, arrays, List.getElem?_eq_getElem hreached]
    rfl
  have hkept {α : Type} {f : Placement → α} (hf : ∀ p, f (Placement.measured p size) = f p) :
      (s.writeSize index size).layout.placements.map f = s.layout.placements.map f :=
    map_modify hf _ _
  rw [ArrayPass.writeSize?, hwidth, hheight, hphase, hmark]
  dsimp only [arrays, Layout.arrays]
  rw [hkept (f := (·.bounds.origin.x)) fun _ => rfl, hkept (f := (·.bounds.origin.y)) fun _ => rfl,
    hkept (f := (·.visibility)) fun _ => rfl, hkept (f := (·.dirty)) fun _ => rfl]
  rfl

theorem Fits.writeOrigin?_arrays (h : s.Fits count) (hindex : index < count) (origin : Point) :
    s.arrays.writeOrigin? index origin = some (s.writeOrigin index origin).arrays := by
  have hlayout : index < s.layout.placements.length := h.layout ▸ hindex
  have hx : update? s.arrays.arrays.x index (fun _ => origin.x) =
      some (s.writeOrigin index origin).arrays.arrays.x := update?_map (fun _ => rfl) hlayout
  have hy : update? s.arrays.arrays.y index (fun _ => origin.y) =
      some (s.writeOrigin index origin).arrays.arrays.y := update?_map (fun _ => rfl) hlayout
  have hphase : update? s.arrays.arrays.phase index (fun _ => .placed) =
      some (s.writeOrigin index origin).arrays.arrays.phase := update?_map (fun _ => rfl) hlayout
  have hkept {α : Type} {f : Placement → α} (hf : ∀ p, f (Placement.placed p origin) = f p) :
      (s.writeOrigin index origin).layout.placements.map f = s.layout.placements.map f :=
    map_modify hf _ _
  rw [ArrayPass.writeOrigin?, hx, hy, hphase]
  dsimp only [arrays, Layout.arrays]
  rw [hkept (f := (·.bounds.size.width)) fun _ => rfl,
    hkept (f := (·.bounds.size.height)) fun _ => rfl, hkept (f := (·.visibility)) fun _ => rfl,
    hkept (f := (·.dirty)) fun _ => rfl]
  rfl

/-! ## Measuring -/

/-- A step over arrays comes to what a step over a layout comes to, and stays within the arrays. -/
def Matches {α : Type} (count : Nat) (result : α × LayoutPass) (result? : Option (α × ArrayPass)) :
    Prop :=
  result.2.Fits count ∧ result? = some (result.1, result.2.arrays)

theorem Matches.map {α β : Type} {result : α × LayoutPass} {result? : Option (α × ArrayPass)}
    (h : Matches count result result?) (f : α → β) :
    Matches count (f result.1, result.2) (result?.map fun result => (f result.1, result.2)) := by
  obtain ⟨hfits, rfl⟩ := h
  exact ⟨hfits, rfl⟩

variable {ctx : MeasureContext}

/-- The two rounds of a row or column. -/
theorem matches_rounds {axis : Axis} {layout : LinearLayout} {inner : Room} {cs : List Component}
    (hcs : ∀ (s : LayoutPass) (room? : Component → Option Room), s.Fits count →
      Matches count (s.measureEach ctx room? index cs) (s.arrays.measureEach? ctx room? index cs))
    (h : s.Fits count) :
    let share (sizes : List Size) (fillCount : Nat) := layout.share (axis.mainSpace inner)
      (Single.total (sizes.map axis.main)) (sizes.length + fillCount) fillCount
    let rigid := s.measureEach ctx (Component.rigidRoom? axis inner) index cs
    let filling := rigid.2.measureEach ctx
      (Component.fillingRoom? axis inner (share rigid.1 (s.fillCount axis index cs))) index cs
    Matches count (layout.contentSize axis (rigid.1 ++ filling.1), filling.2) (do
      let rigid ← s.arrays.measureEach? ctx (Component.rigidRoom? axis inner) index cs
      let filling ← rigid.2.measureEach? ctx (Component.fillingRoom? axis inner
        (share rigid.1 (s.arrays.fillCount axis index cs))) index cs
      return (layout.contentSize axis (rigid.1 ++ filling.1), filling.2)) := by
  intro share rigid filling
  obtain ⟨hfits, hrigid⟩ := hcs s (Component.rigidRoom? axis inner) h
  obtain ⟨hfits', hfilling⟩ := hcs rigid.2
    (Component.fillingRoom? axis inner (share rigid.1 (s.fillCount axis index cs))) hfits
  refine ⟨hfits', ?_⟩
  rw [hrigid, fillCount_arrays]
  dsimp only [Option.bind_eq_bind, Option.bind_some]
  rw [hfilling]
  rfl

/-- A component is written down after its content. -/
theorem Matches.writeSize {content : Size × LayoutPass} {content? : Option (Size × ArrayPass)}
    (h : Matches count content content?) (hindex : index < count) (f : Size → Size) :
    Matches count (f content.1, content.2.writeSize index (f content.1)) (do
      let content ← content?
      return (f content.1, ← content.2.writeSize? index (f content.1))) := by
  obtain ⟨hfits, rfl⟩ := h
  refine ⟨hfits.writeSize _ _, ?_⟩
  dsimp only [Option.bind_eq_bind, Option.bind_some]
  rw [hfits.writeSize?_arrays hindex]
  rfl

theorem Matches.cons {first : Option Size × LayoutPass}
    {first? : Option (Option Size × ArrayPass)} {room? : Component → Option Room}
    {cs : List Component} (h : Matches count first first?)
    (hcs : Matches count (first.2.measureEach ctx room? index cs)
      (first.2.arrays.measureEach? ctx room? index cs)) :
    let others := first.2.measureEach ctx room? index cs
    Matches count (first.1.toList ++ others.1, others.2) (do
      let first ← first?
      let others ← first.2.measureEach? ctx room? index cs
      return (first.1.toList ++ others.1, others.2)) := by
  obtain ⟨-, rfl⟩ := h
  obtain ⟨hfits, hothers⟩ := hcs
  refine ⟨hfits, ?_⟩
  dsimp only [Option.bind_eq_bind, Option.bind_some]
  rw [hothers]
  rfl

mutual

theorem matches_measure {s : LayoutPass} (h : s.Fits count) (room : Room) (index : Nat) :
    (c : Component) → index + c.size ≤ count →
      Matches count (s.measure ctx room index c) (s.arrays.measure? ctx room index c)
  | .node id kind modifiers children, hle => by
      rw [Component.size] at hle
      have hindex : index < count := by omega
      have hchildren (s : LayoutPass) (room? : Component → Option Room) (h : s.Fits count) :
          Matches count (s.measureEach ctx room? (index + 1) children)
            (s.arrays.measureEach? ctx room? (index + 1) children) :=
        matches_measureEach h room? (index + 1) children (by omega)
      cases kind with
      | row layout =>
          rw [measure, ArrayPass.measure?]
          exact (matches_rounds hchildren h).writeSize hindex _
      | column layout =>
          rw [measure, ArrayPass.measure?]
          exact (matches_rounds hchildren h).writeSize hindex _
      | box layout =>
          rw [measure, ArrayPass.measure?]
          exact ((hchildren s _ h).map BoxLayout.contentSize).writeSize hindex _
      | text content =>
          rw [measure, ArrayPass.measure?]
          have hcontent : Matches count (ctx.textSize content, s)
              (some (ctx.textSize content, s.arrays)) := ⟨h, rfl⟩
          exact hcontent.writeSize hindex _
      | spacer =>
          rw [measure, ArrayPass.measure?]
          have hcontent : Matches count (Size.empty, s) (some (Size.empty, s.arrays)) := ⟨h, rfl⟩
          exact hcontent.writeSize hindex _

theorem matches_measureEach {s : LayoutPass} (h : s.Fits count)
    (room? : Component → Option Room) (index : Nat) :
    (cs : List Component) → index + Component.sizeAll cs ≤ count →
      Matches count (s.measureEach ctx room? index cs) (s.arrays.measureEach? ctx room? index cs)
  | [], _ => ⟨h, by rw [measureEach, ArrayPass.measureEach?]⟩
  | c :: rest, hle => by
      rw [Component.sizeAll] at hle
      rw [measureEach, ArrayPass.measureEach?, takesPart_arrays]
      have hrest (s : LayoutPass) (h : s.Fits count) := matches_measureEach h room?
        (index + c.size) rest (by omega)
      cases s.takesPart index with
      | false =>
          have hfirst : Matches count ((none : Option Size), s) (some (none, s.arrays)) := ⟨h, rfl⟩
          exact hfirst.cons (hrest s h)
      | true =>
          cases room? c with
          | none =>
              have hfirst : Matches count ((none : Option Size), s) (some (none, s.arrays)) :=
                ⟨h, rfl⟩
              exact hfirst.cons (hrest s h)
          | some room =>
              have hfirst := (matches_measure h room index c (by omega)).map some
              exact hfirst.cons (hrest _ hfirst.1)

end

/-! ## Placing -/

/-- A step over arrays leads to what a step over a layout leads to, and stays within the arrays. -/
def Mirrors (count : Nat) (s : LayoutPass) (s? : Option ArrayPass) : Prop :=
  s.Fits count ∧ s? = some s.arrays

mutual

theorem mirrors_place {s : LayoutPass} (h : s.Fits count) (index : Nat) (origin : Point) :
    (c : Component) → index + c.size ≤ count →
      Mirrors count (s.place index origin c) (s.arrays.place? index origin c)
  | .node id kind modifiers children, hle => by
      rw [Component.size] at hle
      have hindex : index < count := by omega
      have hchildren (s : LayoutPass) (h : s.Fits count)
          (advance : Single → Size → Point × Single) (cursor : Single) :
          Mirrors count (s.placeEach advance cursor (index + 1) children)
            (s.arrays.placeEach? advance cursor (index + 1) children) :=
        mirrors_placeEach h advance cursor (index + 1) children (by omega)
      have hplaced := h.writeOrigin index origin
      rw [ArrayPass.place?, h.writeOrigin?_arrays hindex]
      dsimp only [Option.bind_eq_bind, Option.bind_some]
      rw [sizeAt_arrays, sizes_arrays]
      cases kind with
      | row layout =>
          rw [place]
          exact hchildren _ hplaced _ _
      | column layout =>
          rw [place]
          exact hchildren _ hplaced _ _
      | box layout =>
          rw [place]
          exact hchildren _ hplaced _ _
      | text content =>
          rw [place]
          exact ⟨hplaced, rfl⟩
      | spacer =>
          rw [place]
          exact ⟨hplaced, rfl⟩

theorem mirrors_placeEach {s : LayoutPass} (h : s.Fits count)
    (advance : Single → Size → Point × Single) (cursor : Single) (index : Nat) :
    (cs : List Component) → index + Component.sizeAll cs ≤ count →
      Mirrors count (s.placeEach advance cursor index cs)
        (s.arrays.placeEach? advance cursor index cs)
  | [], _ => ⟨h, by rw [placeEach, ArrayPass.placeEach?]⟩
  | c :: rest, hle => by
      rw [Component.sizeAll] at hle
      rw [placeEach, ArrayPass.placeEach?, takesPart_arrays, sizeAt_arrays]
      by_cases htakesPart : s.takesPart index = true
      · rw [if_pos htakesPart, if_pos htakesPart]
        obtain ⟨hfits, hfirst⟩ :=
          mirrors_place h index (advance cursor (s.size index)).1 c (by omega)
        dsimp only
        rw [hfirst]
        exact mirrors_placeEach hfits advance _ _ rest (by omega)
      · rw [if_neg htakesPart, if_neg htakesPart]
        exact mirrors_placeEach h advance cursor _ rest (by omega)

end

/-! ## Passes -/

theorem start?_arrays {l : Layout} {visibilities : List Visibility}
    (h : visibilities.length = l.size) :
    ArrayPass.start? l.arrays visibilities = some (start l visibilities).arrays := by
  have hlength : (l.placements.map (·.visibility)).length = visibilities.length :=
    (List.length_map _).trans h.symm
  have hkept {α : Type} {f : Placement → α}
      (hf : ∀ (p : Placement) visibility, f { p with visibility } = f p) :
      (start l visibilities).layout.placements.map f = l.placements.map f :=
    map_zipWith_kept hf h
  have hvisibility : (start l visibilities).layout.placements.map (·.visibility) =
      List.zipWith (fun _ visibility => visibility) (l.placements.map (·.visibility))
        visibilities := by
    rw [start, List.map_zipWith, List.zipWith_map_left]
  rw [ArrayPass.start?, Layout.arrays, updateEach?_eq hlength]
  dsimp only [arrays, Layout.arrays]
  rw [hvisibility, hkept (f := (·.bounds.origin.x)) fun _ _ => rfl,
    hkept (f := (·.bounds.origin.y)) fun _ _ => rfl,
    hkept (f := (·.bounds.size.width)) fun _ _ => rfl,
    hkept (f := (·.bounds.size.height)) fun _ _ => rfl, hkept (f := (·.phase)) fun _ _ => rfl,
    hkept (f := (·.dirty)) fun _ _ => rfl]
  rfl

theorem Fits.finish?_arrays {s : LayoutPass} (h : s.Fits count) :
    s.arrays.finish? = some s.finish.arrays := by
  have hlength : s.reached.length = s.layout.placements.length := h.reached.trans h.layout.symm
  have hkept {α : Type} {f : Placement → α} (hf : ∀ p, f (Placement.leftOut p) = f p) :
      s.finish.placements.map f = s.layout.placements.map f := by
    apply map_zipWith_kept _ hlength
    intro p reached
    cases reached with
    | true => rfl
    | false => exact hf p
  have hphase : s.finish.placements.map (·.phase) =
      List.zipWith (fun phase reached => if reached then phase else phase.leftOut)
        (s.layout.placements.map (·.phase)) s.reached := by
    rw [finish, List.map_zipWith, List.zipWith_map_left]
    congr 1
    funext p reached
    obtain ⟨_, _, phase, _⟩ := p
    cases reached <;> cases phase <;> rfl
  rw [ArrayPass.finish?]
  dsimp only [arrays, Layout.arrays]
  rw [updateEach?_eq ((List.length_map _).trans hlength.symm), hphase,
    hkept (f := (·.bounds.origin.x)) fun _ => rfl, hkept (f := (·.bounds.origin.y)) fun _ => rfl,
    hkept (f := (·.bounds.size.width)) fun _ => rfl,
    hkept (f := (·.bounds.size.height)) fun _ => rfl, hkept (f := (·.visibility)) fun _ => rfl,
    hkept (f := (·.dirty)) fun _ => rfl]
  rfl

theorem fits_start {before : Layout} {visibilities : List Visibility}
    (hlength : visibilities.length = before.size) (hsize : before.size = count) :
    (start before visibilities).Fits count where
  layout := (size_start hlength).trans hsize
  reached := List.length_replicate.trans (hlength.trans hsize)

end LayoutPass

/-- There is a visibility for every component. -/
theorem ComponentTree.length_visibilities (t : ComponentTree) (store : Store) :
    (t.nodes.map fun n => Modifiers.resolvedVisibility store n.modifiers).length = t.size :=
  (List.length_map _).trans t.length_nodes

namespace Layout

variable {t : ComponentTree} {ctx : MeasureContext} {viewport : Size} {l : Layout}

theorem arrays_fresh (count : Nat) : (fresh count).arrays = .fresh count := by
  simp only [arrays, fresh, LayoutArrays.fresh, List.map_replicate]
  rfl

/-- What a pass starts from. -/
theorem arrays_before (l : Layout) (count : Nat) :
    (if l.arrays.phase.length = count then l.arrays else .fresh count) =
      (if l.size = count then l else fresh count).arrays := by
  rw [apply_ite arrays, arrays_fresh]
  congr 2
  exact List.length_map _

/-- A pass over arrays makes of the arrays of a layout those of what a pass makes of the layout. -/
theorem pass?_arrays (hproper : t.root.Proper) (l : Layout) :
    l.arrays.pass? t ctx viewport = some (l.compute t ctx viewport).arrays := by
  rw [← overwrite_eq_compute hproper, LayoutArrays.pass?, overwrite, arrays_before]
  have hsize := l.size_before t.size
  generalize (if l.size = t.size then l else fresh t.size) = before at hsize ⊢
  have hvisibilities := t.length_visibilities ctx.store
  generalize (t.nodes.map fun n =>
    Modifiers.resolvedVisibility ctx.store n.modifiers) = visibilities at hvisibilities ⊢
  have hlength : visibilities.length = before.size := hvisibilities.trans hsize.symm
  have hfits := LayoutPass.fits_start hlength hsize
  have hall : 0 + t.root.size ≤ t.size := Nat.le_of_eq (Nat.zero_add t.size)
  have hmatches : LayoutPass.Matches t.size ((LayoutPass.start before visibilities).measure ctx
      (.ofViewport viewport) 0 t.root) _ :=
    LayoutPass.matches_measure hfits (.ofViewport viewport) 0 t.root hall
  obtain ⟨hmeasured, hmeasure⟩ := hmatches
  obtain ⟨hplaced, hplace⟩ := LayoutPass.mirrors_place hmeasured 0 .origin t.root hall
  rw [LayoutPass.start?_arrays hlength]
  dsimp only [Option.bind_eq_bind, Option.bind_some]
  rw [LayoutPass.takesPart_arrays]
  split
  · rw [hmeasure]
    dsimp only [Option.bind_some]
    rw [hplace]
    exact hplaced.finish?_arrays
  · exact hfits.finish?_arrays

/-- The layout of a tree after some passes, each with variables, text sizes and a viewport of its
own. -/
def computeAll (l : Layout) (t : ComponentTree) (passes : List (MeasureContext × Size)) : Layout :=
  passes.foldl (fun l pass => l.compute t pass.1 pass.2) l

theorem computeAll_concat (l : Layout) (t : ComponentTree) (passes : List (MeasureContext × Size))
    (ctx : MeasureContext) (viewport : Size) :
    l.computeAll t (passes ++ [(ctx, viewport)]) =
      (l.computeAll t passes).compute t ctx viewport := by
  rw [computeAll, List.foldl_append, computeAll]
  rfl

theorem passes?_arrays (hproper : t.root.Proper) (passes : List (MeasureContext × Size))
    (l : Layout) : l.arrays.passes? t passes = some (l.computeAll t passes).arrays := by
  induction passes generalizing l with
  | nil => rfl
  | cons pass passes ih =>
      rw [LayoutArrays.passes?, List.foldlM_cons, pass?_arrays hproper, computeAll,
        List.foldl_cons]
      exact ih _

theorem phaseAt_arrays (l : Layout) (i : Nat) : l.arrays.phaseAt i = l.phase i := by
  rw [LayoutArrays.phaseAt, arrays, List.getElem?_map, phase]

/-- Every array has an entry for each component. -/
theorem length_arrays (l : Layout) :
    l.arrays.x.length = l.size ∧ l.arrays.y.length = l.size ∧ l.arrays.width.length = l.size ∧
      l.arrays.height.length = l.size ∧ l.arrays.visibility.length = l.size ∧
      l.arrays.phase.length = l.size ∧ l.arrays.dirty.length = l.size := by
  refine ⟨?_, ?_, ?_, ?_, ?_, ?_, ?_⟩ <;> exact List.length_map _

end Layout

end Panel
