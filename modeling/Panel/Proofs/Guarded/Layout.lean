import Panel.Guarded.Layout
import Panel.Proofs.Component.Position
import Panel.Proofs.Guarded.Store
import Panel.Proofs.Layout.Arrays

/-!
# Links stay within the arrays

A pass that follows the links of a tree finds every component that it is sent to, at the place that
the tree has for it, and so writes where a pass writes that goes down the tree itself.  A pass does
not change which components take part, so that those are measured that are counted.
-/

namespace Panel

/-! ## What takes part -/

namespace LayoutPass

variable {ctx : MeasureContext} {s : LayoutPass}

theorem takesPart_writeSize (s : LayoutPass) (index : Nat) (size : Size) :
    (s.writeSize index size).takesPart = s.takesPart := by
  funext i
  rw [takesPart, takesPart, writeSize_eq, visibility_withSizes]

theorem takesPart_writeOrigin (s : LayoutPass) (index : Nat) (origin : Point) :
    (s.writeOrigin index origin).takesPart = s.takesPart := by
  funext i
  rw [takesPart, takesPart, visibility_writeOrigin]

mutual

theorem takesPart_measure (s : LayoutPass) (room : Room) (index : Nat) :
    (c : Component) → (s.measure ctx room index c).2.takesPart = s.takesPart
  | .node id kind modifiers children => by
      cases kind with
      | row layout =>
          rw [measure, takesPart_writeSize, takesPart_measureEach _ _ _ children,
            takesPart_measureEach _ _ _ children]
      | column layout =>
          rw [measure, takesPart_writeSize, takesPart_measureEach _ _ _ children,
            takesPart_measureEach _ _ _ children]
      | box layout =>
          rw [measure, takesPart_writeSize, takesPart_measureEach _ _ _ children]
      | text content => rw [measure, takesPart_writeSize]
      | spacer => rw [measure, takesPart_writeSize]

theorem takesPart_measureEach (s : LayoutPass) (room? : Component → Option Room) (index : Nat) :
    (cs : List Component) → (s.measureEach ctx room? index cs).2.takesPart = s.takesPart
  | [] => by rw [measureEach]
  | c :: rest => by
      rw [measureEach]
      cases s.takesPart index with
      | false => exact takesPart_measureEach _ _ _ rest
      | true =>
          cases room? c with
          | none => exact takesPart_measureEach _ _ _ rest
          | some room =>
              exact (takesPart_measureEach _ _ _ rest).trans (takesPart_measure s room index c)

end

mutual

theorem takesPart_place (s : LayoutPass) (index : Nat) (origin : Point) :
    (c : Component) → (s.place index origin c).takesPart = s.takesPart
  | .node id kind modifiers children => by
      cases kind with
      | row layout =>
          rw [place, takesPart_placeEach _ _ _ _ children, takesPart_writeOrigin]
      | column layout =>
          rw [place, takesPart_placeEach _ _ _ _ children, takesPart_writeOrigin]
      | box layout =>
          rw [place, takesPart_placeEach _ _ _ _ children, takesPart_writeOrigin]
      | text content => rw [place, takesPart_writeOrigin]
      | spacer => rw [place, takesPart_writeOrigin]

theorem takesPart_placeEach (s : LayoutPass) (advance : Single → Size → Point × Single)
    (cursor : Single) (index : Nat) :
    (cs : List Component) → (s.placeEach advance cursor index cs).takesPart = s.takesPart
  | [] => by rw [placeEach]
  | c :: rest => by
      rw [placeEach]
      split
      · exact (takesPart_placeEach _ _ _ _ rest).trans (takesPart_place s index _ c)
      · exact takesPart_placeEach _ _ _ _ rest

end

/-- The size that a component has been given is in its places. -/
theorem Fits.size_arrays {count index : Nat} (h : s.Fits count) (hindex : index < count) :
    s.arrays.arrays.width[index]? = some (s.size index).width ∧
      s.arrays.arrays.height[index]? = some (s.size index).height := by
  have hlt : index < s.layout.placements.length := h.layout ▸ hindex
  rw [size, Layout.bounds]
  dsimp only [arrays, Layout.arrays]
  rw [List.getElem?_map, List.getElem?_map, List.getElem?_eq_getElem hlt]
  exact ⟨rfl, rfl⟩

end LayoutPass

/-! ## Places -/

namespace Component

variable {root c : Component} {above : List Nat} {i depth index : Nat} {id : ComponentId}
  {kind : ComponentKind} {modifiers : Modifiers} {cs : List Component}
  {P Q : Nat → Component → Prop}

/-- Something is so of each of consecutive trees with its number. -/
def Each (P : Nat → Component → Prop) : Nat → List Component → Prop
  | _, [] => True
  | index, c :: cs => P index c ∧ Each P (index + c.size) cs

theorem Each.imp (h : Each P index cs) (himp : ∀ i c, P i c → Q i c) : Each Q index cs := by
  induction cs generalizing index with
  | nil => trivial
  | cons c cs ih => exact ⟨himp index c h.1, ih h.2⟩

theorem At.lt_size (h : At root above i c) : i < root.size :=
  Nat.lt_of_lt_of_le (Nat.lt_add_of_pos_right c.size_pos) h.add_size_le

/-- Each child has a place of its own, and less room is needed for it. -/
theorem At.each_child (front : List Component)
    (h : At root above i (node id kind modifiers (front ++ cs)))
    (hdepth : (node id kind modifiers (front ++ cs)).size ≤ depth + 1) :
    Each (fun j c => ∃ above', At root above' j c ∧ c.size ≤ depth) (i + 1 + sizeAll front) cs := by
  induction cs generalizing front with
  | nil => trivial
  | cons c cs ih =>
      have hall : front ++ c :: cs = (front ++ [c]) ++ cs := by simp
      have hrest := ih (front ++ [c]) (hall ▸ h) (hall ▸ hdepth)
      rw [sizeAll_concat, ← Nat.add_assoc] at hrest
      rw [size, sizeAll_append, sizeAll] at hdepth
      exact ⟨⟨_, h.child, by omega⟩, hrest⟩

end Component

namespace PassContext

open Component (At Each numbering)
open LayoutPass (Matches Mirrors)

/-- A pass that follows links goes over the nodes of a tree, with the same variables. -/
structure Sees (ctx : PassContext) (t : ComponentTree) (plain : MeasureContext) : Prop where
  nodes : ctx.nodes = t.nodes
  located : ctx.store.Located
  store : ctx.store.toStore = plain.store
  textMeasure : ctx.textMeasure = plain.textMeasure

variable {ctx : PassContext} {t : ComponentTree} {plain : MeasureContext} {above : List Nat}
  {i : Nat} {c : Component} {count : Nat} {s : LayoutPass}

theorem Sees.node (h : ctx.Sees t plain) {id : ComponentId} {kind : ComponentKind}
    {modifiers : Modifiers} {children : List Component}
    (hat : At t.root above i (.node id kind modifiers children)) :
    ctx.nodes[i]? = some ⟨id, kind, modifiers, above.head?, numbering (i + 1) children⟩ := by
  rw [h.nodes]
  exact hat.getElem?_flatten

theorem Sees.fills_eq (h : ctx.Sees t plain) (hat : At t.root above i c) (axis : Axis) :
    ctx.fills axis i = c.fills axis := by
  obtain ⟨id, kind, modifiers, children⟩ := c
  rw [fills, h.node hat]
  cases axis <;> rfl

theorem Sees.textSize?_eq (h : ctx.Sees t plain) (content : TextContent) :
    ctx.textSize? content = some (plain.textSize content) := by
  rw [textSize?, h.located.resolveText?_eq, h.textMeasure, h.store]
  rfl

/-! ## Measuring -/

variable {measure : Nat → ArrayPass → Option (Size × ArrayPass)}

theorem length_measureAll? {l : List Nat} {a b : ArrayPass} {sizes : List Size}
    (h : measureAll? measure a l = some (sizes, b)) : sizes.length = l.length := by
  induction l generalizing a sizes with
  | nil =>
      cases h
      rfl
  | cons j l ih =>
      obtain ⟨first, -, h⟩ := Option.bind_eq_some_iff.1 h
      obtain ⟨others, hothers, h⟩ := Option.bind_eq_some_iff.1 h
      cases h
      rw [List.length_cons, List.length_cons, ih hothers]

/-- A component is left out of a round, or it is picked and measured in the room that is its. -/
def Agrees (plain : MeasureContext) (count : Nat) (room? : Component → Option Room)
    (pick : Nat → Bool) (measure : Nat → ArrayPass → Option (Size × ArrayPass)) (j : Nat)
    (c : Component) : Prop :=
  (room? c = none ∧ pick j = false) ∨ ∃ room, room? c = some room ∧ pick j = true ∧
    ∀ s : LayoutPass, s.Fits count → Matches count (s.measure plain room j c) (measure j s.arrays)

/-- What is measured one after the other are those children that take part and are picked. -/
theorem matches_measureAll {room? : Component → Option Room} {pick : Nat → Bool} {index : Nat}
    {cs : List Component} (hcs : Each (Agrees plain count room? pick measure) index cs)
    (h : s.Fits count) :
    Matches count (s.measureEach plain room? index cs)
      (measureAll? measure s.arrays (((numbering index cs).filter s.takesPart).filter pick)) := by
  induction cs generalizing index s with
  | nil =>
      rw [LayoutPass.measureEach]
      exact ⟨h, rfl⟩
  | cons c cs ih =>
      obtain ⟨hfirst, hrest⟩ := hcs
      rw [numbering, LayoutPass.measureEach]
      cases htakesPart : s.takesPart index with
      | false =>
          rw [List.filter_cons_of_neg (Bool.not_eq_true _ ▸ htakesPart)]
          exact ih hrest h
      | true =>
          rw [List.filter_cons_of_pos htakesPart]
          rcases hfirst with ⟨hroom, hpick⟩ | ⟨room, hroom, hpick, hfirst⟩
          · rw [hroom, List.filter_cons_of_neg (Bool.not_eq_true _ ▸ hpick)]
            exact ih hrest h
          · obtain ⟨hfits, hrun⟩ := hfirst s h
            obtain ⟨hfits', hothers⟩ := ih hrest hfits
            rw [LayoutPass.takesPart_measure] at hothers
            rw [hroom, List.filter_cons_of_pos hpick]
            refine ⟨hfits', ?_⟩
            rw [measureAll?, hrun]
            dsimp only [Option.bind_eq_bind, Option.bind_some]
            rw [hothers]
            rfl

/-- All children that take part are measured, in the same room. -/
theorem matches_measureEach {inner : Room} {index : Nat} {cs : List Component}
    (hcs : Each (fun j c => ∀ s : LayoutPass, s.Fits count →
      Matches count (s.measure plain inner j c) (measure j s.arrays)) index cs)
    (h : s.Fits count) :
    Matches count (s.measureEach plain (fun _ => some inner) index cs)
      (measureAll? measure s.arrays ((numbering index cs).filter s.takesPart)) := by
  have hall : (((numbering index cs).filter s.takesPart).filter fun _ => true) =
      (numbering index cs).filter s.takesPart := List.filter_eq_self.2 fun _ _ => rfl
  rw [← hall]
  exact matches_measureAll (hcs.imp fun _ _ hmeasure => .inr ⟨inner, rfl, rfl, hmeasure⟩) h

/-- The children that fill an axis are those that are counted. -/
theorem length_filter_fills {axis : Axis} {index : Nat} {cs : List Component}
    (hcs : Each (fun j c => ctx.fills axis j = c.fills axis) index cs) :
    (((numbering index cs).filter s.takesPart).filter (ctx.fills axis)).length =
      s.fillCount axis index cs := by
  induction cs generalizing index with
  | nil => rfl
  | cons c cs ih =>
      obtain ⟨hfirst, hrest⟩ := hcs
      have hrest := ih hrest
      rw [LayoutPass.fillCount] at hrest ⊢
      rw [numbering, List.zip_cons_cons, List.filter_cons, List.filter_cons]
      cases s.takesPart index with
      | false => exact hrest
      | true =>
          rw [if_pos rfl, List.filter_cons, hfirst, Bool.true_and]
          cases c.fills axis with
          | false => exact hrest
          | true => exact congrArg (· + 1) hrest

/-- A child is rigid in the one representation if it is in the other. -/
theorem agrees_rigid {measure : Room → Nat → ArrayPass → Option (Size × ArrayPass)} {axis : Axis}
    {inner : Room} (hfills : ctx.fills axis i = c.fills axis)
    (hmeasure : ∀ (room : Room) (s : LayoutPass), s.Fits count →
      Matches count (s.measure plain room i c) (measure room i s.arrays)) :
    Agrees plain count (Component.rigidRoom? axis inner) (fun i => !ctx.fills axis i)
      (measure (axis.room none (axis.crossSpace inner))) i c := by
  rw [Agrees, Component.rigidRoom?, hfills]
  cases c.fills axis with
  | true => exact .inl ⟨rfl, rfl⟩
  | false => exact .inr ⟨_, rfl, rfl, hmeasure _⟩

theorem agrees_filling {measure : Room → Nat → ArrayPass → Option (Size × ArrayPass)} {axis : Axis}
    {inner : Room} {share : Option Single} (hfills : ctx.fills axis i = c.fills axis)
    (hmeasure : ∀ (room : Room) (s : LayoutPass), s.Fits count →
      Matches count (s.measure plain room i c) (measure room i s.arrays)) :
    Agrees plain count (Component.fillingRoom? axis inner share) (ctx.fills axis)
      (measure (axis.room share (axis.crossSpace inner))) i c := by
  rw [Agrees, Component.fillingRoom?, hfills]
  cases c.fills axis with
  | true => exact .inr ⟨_, rfl, rfl, hmeasure _⟩
  | false => exact .inl ⟨rfl, rfl⟩

/-- There are as many gaps as there are children measured, less one. -/
theorem measureLinear?_eq {measure : Room → Nat → ArrayPass → Option (Size × ArrayPass)}
    {axis : Axis} {layout : LinearLayout} {inner : Room} {flow : List Nat} {s : ArrayPass}
    {rigid filling : List Size × ArrayPass} (hflow : flow ≠ [])
    (hrigid : measureAll? (measure (axis.room none (axis.crossSpace inner))) s
      (flow.filter fun i => !ctx.fills axis i) = some rigid)
    (hfilling : measureAll? (measure (axis.room (layout.share (axis.mainSpace inner)
      (Single.total (rigid.1.map axis.main))
      (rigid.1.length + (flow.filter (ctx.fills axis)).length)
      (flow.filter (ctx.fills axis)).length) (axis.crossSpace inner))) rigid.2
      (flow.filter (ctx.fills axis)) = some filling) :
    ctx.measureLinear? measure axis layout inner flow s =
      some (layout.contentSize axis (rigid.1 ++ filling.1), filling.2) := by
  have hlength : flow.length = rigid.1.length + (flow.filter (ctx.fills axis)).length := by
    rw [length_measureAll? hrigid, Nat.add_comm]
    exact List.length_eq_length_filter_add (ctx.fills axis)
  have hpos : 0 < flow.length := List.length_pos_iff.2 hflow
  have hall : (rigid.1 ++ filling.1).length = flow.length := by
    rw [List.length_append, length_measureAll? hfilling, hlength]
  have hfull : ¬(rigid.1 ++ filling.1).isEmpty = true := by
    rw [List.isEmpty_iff_length_eq_zero, hall]
    omega
  rw [← hlength, LinearLayout.share, LinearLayout.gaps] at hfilling
  rw [measureLinear?, if_neg (mt List.isEmpty_iff.1 hflow), difference?_of_le hpos]
  dsimp only [Option.bind_eq_bind, Option.bind_some]
  rw [hrigid]
  dsimp only [Option.bind_some]
  rw [hfilling, LinearLayout.contentSize, if_neg hfull, hall]
  rfl

/-- The two rounds of a row or column. -/
theorem matches_linear {measure : Room → Nat → ArrayPass → Option (Size × ArrayPass)} {axis : Axis}
    {layout : LinearLayout} {inner : Room} {index : Nat} {cs : List Component}
    (hcs : Each (fun j c => ctx.fills axis j = c.fills axis ∧
      ∀ (room : Room) (s : LayoutPass), s.Fits count →
        Matches count (s.measure plain room j c) (measure room j s.arrays)) index cs)
    (h : s.Fits count) :
    let share (sizes : List Size) (fillCount : Nat) := layout.share (axis.mainSpace inner)
      (Single.total (sizes.map axis.main)) (sizes.length + fillCount) fillCount
    let rigid := s.measureEach plain (Component.rigidRoom? axis inner) index cs
    let filling := rigid.2.measureEach plain
      (Component.fillingRoom? axis inner (share rigid.1 (s.fillCount axis index cs))) index cs
    Matches count (layout.contentSize axis (rigid.1 ++ filling.1), filling.2)
      (ctx.measureLinear? measure axis layout inner ((numbering index cs).filter s.takesPart)
        s.arrays) := by
  intro share rigid filling
  have hfillCount := length_filter_fills (s := s) (hcs.imp fun _ _ h => h.1)
  have hrigid : Matches count rigid (measureAll? (measure (axis.room none (axis.crossSpace inner)))
      s.arrays (((numbering index cs).filter s.takesPart).filter fun i => !ctx.fills axis i)) := by
    exact matches_measureAll (hcs.imp fun _ _ h => agrees_rigid h.1 h.2) h
  have hfilling : Matches count filling
      (measureAll? (measure (axis.room (share rigid.1 (s.fillCount axis index cs))
        (axis.crossSpace inner))) rigid.2.arrays
        (((numbering index cs).filter s.takesPart).filter (ctx.fills axis))) := by
    -- what takes part in the second round took part in the first one
    rw [← LayoutPass.takesPart_measureEach s (Component.rigidRoom? axis inner) index cs]
    exact matches_measureAll (hcs.imp fun _ _ h => agrees_filling h.1 h.2) hrigid.1
  generalize (numbering index cs).filter s.takesPart = flow at *
  obtain ⟨-, hrigid⟩ := hrigid
  obtain ⟨hfits, hfilling⟩ := hfilling
  refine ⟨hfits, ?_⟩
  by_cases hflow : flow = []
  · subst hflow
    obtain ⟨hnone, hsame⟩ := Prod.mk.inj (Option.some.inj hrigid)
    obtain ⟨hnone', hsame'⟩ := Prod.mk.inj (Option.some.inj hfilling)
    rw [← hnone, ← hnone', ← hsame', ← hsame]
    rfl
  · rw [← hfillCount] at hfilling
    exact measureLinear?_eq hflow hrigid hfilling

theorem flow_arrays (s : LayoutPass) (n : Node) :
    s.arrays.flow n = n.children.filter s.takesPart := by
  rw [ArrayPass.flow, LayoutPass.takesPart_arrays]

/-- A component is measured where the tree has it, with all that is nested in it. -/
theorem Sees.matches_measure (h : ctx.Sees t plain) {depth : Nat} (room : Room)
    (hat : At t.root above i c) (hdepth : c.size ≤ depth) (hs : s.Fits t.size) :
    Matches t.size (s.measure plain room i c) (ctx.measure? depth room i s.arrays) := by
  induction depth generalizing room above i c s with
  | zero => exact absurd c.size_pos (Nat.not_lt.2 hdepth)
  | succ depth ih =>
      obtain ⟨id, kind, modifiers, children⟩ := c
      have hindex : i < t.size := hat.lt_size
      have hlinear (axis : Axis) : Each (fun j d => ctx.fills axis j = d.fills axis ∧
          ∀ (room : Room) (s : LayoutPass), s.Fits t.size →
            Matches t.size (s.measure plain room j d) (ctx.measure? depth room j s.arrays))
          (i + 1) children := by
        refine (hat.each_child [] hdepth).imp fun j d hd => ?_
        obtain ⟨above', hd, hsize⟩ := hd
        exact ⟨h.fills_eq hd axis, fun room s hs => ih room hd hsize hs⟩
      rw [PassContext.measure?, h.node hat]
      dsimp only
      cases kind with
      | row layout =>
          rw [LayoutPass.measure, flow_arrays]
          exact (matches_linear (hlinear .horizontal) hs).writeSize hindex _
      | column layout =>
          rw [LayoutPass.measure, flow_arrays]
          exact (matches_linear (hlinear .vertical) hs).writeSize hindex _
      | box layout =>
          rw [LayoutPass.measure, flow_arrays]
          have hcontent : Matches t.size
              (s.measureEach plain (fun _ => some (modifiers.innerRoom room)) (i + 1) children) _ :=
            matches_measureEach ((hlinear .horizontal).imp fun _ _ hd => hd.2 _) hs
          exact (hcontent.map BoxLayout.contentSize).writeSize hindex _
      | text content =>
          rw [LayoutPass.measure]
          have hcontent : Matches t.size (plain.textSize content, s)
              ((ctx.textSize? content).map fun size => (size, s.arrays)) := by
            rw [h.textSize?_eq]
            exact ⟨hs, rfl⟩
          exact hcontent.writeSize hindex _
      | spacer =>
          rw [LayoutPass.measure]
          have hcontent : Matches t.size (Size.empty, s) (some (Size.empty, s.arrays)) := ⟨hs, rfl⟩
          exact hcontent.writeSize hindex _

/-! ## Placing -/

/-- What is placed one after the other are those children that take part. -/
theorem mirrors_placeAll {place : Nat → Point → ArrayPass → Option ArrayPass}
    {advance : Single → Size → Point × Single} {cursor : Single} {index : Nat}
    {cs : List Component} (hcs : Each (fun j c => ∀ (origin : Point) (s : LayoutPass),
      s.Fits count → Mirrors count (s.place j origin c) (place j origin s.arrays)) index cs)
    (h : s.Fits count) :
    Mirrors count (s.placeEach advance cursor index cs)
      (placeAll? place advance cursor s.arrays ((numbering index cs).filter s.takesPart)) := by
  induction cs generalizing cursor index s with
  | nil =>
      rw [LayoutPass.placeEach]
      exact ⟨h, rfl⟩
  | cons c cs ih =>
      obtain ⟨hfirst, hrest⟩ := hcs
      rw [numbering, LayoutPass.placeEach]
      by_cases htakesPart : s.takesPart index = true
      · obtain ⟨hfits, hplace⟩ := hfirst (advance cursor (s.size index)).1 s h
        obtain ⟨hfits', hothers⟩ : Mirrors count ((s.place index _ c).placeEach advance
            (advance cursor (s.size index)).2 (index + c.size) cs) _ := ih hrest hfits
        rw [LayoutPass.takesPart_place] at hothers
        rw [if_pos htakesPart, List.filter_cons_of_pos htakesPart, placeAll?,
          LayoutPass.sizeAt_arrays]
        refine ⟨hfits', ?_⟩
        dsimp only
        rw [show place index _ s.arrays = _ from hplace]
        exact hothers
      · rw [if_neg htakesPart, List.filter_cons_of_neg htakesPart]
        exact ih hrest h

/-- The children of a row or column are placed by the sizes that they were given. -/
theorem mirrors_linear {place : Nat → Point → ArrayPass → Option ArrayPass} {axis : Axis}
    {layout : LinearLayout} {inner : Bounds} {index : Nat} {cs : List Component}
    (hcs : Each (fun j c => ∀ (origin : Point) (s : LayoutPass), s.Fits count →
      Mirrors count (s.place j origin c) (place j origin s.arrays)) index cs)
    (h : s.Fits count) :
    let lead := layout.lead axis inner (s.sizes index cs)
    Mirrors count (s.placeEach (layout.advance axis inner lead.2) lead.1 index cs)
      (placeLinear? place axis layout inner ((numbering index cs).filter s.takesPart)
        s.arrays) := by
  intro lead
  rw [placeLinear?, LayoutPass.sizeAt_arrays]
  exact mirrors_placeAll hcs h

/-- A component is placed where the tree has it, with all that is nested in it. -/
theorem Sees.mirrors_place (h : ctx.Sees t plain) {depth : Nat} (origin : Point)
    (hat : At t.root above i c) (hdepth : c.size ≤ depth) (hs : s.Fits t.size) :
    Mirrors t.size (s.place i origin c) (ctx.place? depth i origin s.arrays) := by
  induction depth generalizing origin above i c s with
  | zero => exact absurd c.size_pos (Nat.not_lt.2 hdepth)
  | succ depth ih =>
      obtain ⟨id, kind, modifiers, children⟩ := c
      have hindex : i < t.size := hat.lt_size
      have hplaced := hs.writeOrigin i origin
      obtain ⟨hwidth, hheight⟩ := hplaced.size_arrays hindex
      have hchildren : Each (fun j d => ∀ (origin : Point) (s : LayoutPass), s.Fits t.size →
          Mirrors t.size (s.place j origin d) (ctx.place? depth j origin s.arrays))
          (i + 1) children := by
        refine (hat.each_child [] hdepth).imp fun j d hd origin s hs => ?_
        obtain ⟨above', hd, hsize⟩ := hd
        exact ih origin hd hsize hs
      rw [PassContext.place?, h.node hat]
      dsimp only
      rw [hs.writeOrigin?_arrays hindex]
      dsimp only [Option.bind_eq_bind, Option.bind_some]
      rw [hwidth, hheight]
      dsimp only [Option.bind_some]
      cases kind with
      | row layout =>
          rw [LayoutPass.place, flow_arrays]
          exact mirrors_linear hchildren hplaced
      | column layout =>
          rw [LayoutPass.place, flow_arrays]
          exact mirrors_linear hchildren hplaced
      | box layout =>
          rw [LayoutPass.place, flow_arrays]
          exact mirrors_placeAll hchildren hplaced
      | text content =>
          rw [LayoutPass.place]
          exact ⟨hplaced, rfl⟩
      | spacer =>
          rw [LayoutPass.place]
          exact ⟨hplaced, rfl⟩

/-! ## Passes -/

theorem Sees.visibilities?_eq (h : ctx.Sees t plain) :
    ctx.visibilities? =
      some (t.nodes.map fun n => Modifiers.resolvedVisibility plain.store n.modifiers) := by
  have hfound : (fun n : Node => Modifiers.resolvedVisibility? ctx.store n.modifiers) =
      fun n => pure (Modifiers.resolvedVisibility plain.store n.modifiers) := by
    funext n
    rw [← h.store]
    exact h.located.resolvedVisibility?_eq _
  rw [visibilities?, h.nodes, hfound]
  exact List.mapM_pure

/-- A pass that follows links writes down what a pass over the tree computes. -/
theorem Sees.pass?_eq (h : ctx.Sees t plain) (hproper : t.root.Proper) (l : Layout)
    (viewport : Size) :
    ctx.pass? l.arrays viewport = some (l.compute t plain viewport).arrays := by
  have hcount : ctx.nodes.length = t.size := by rw [h.nodes, ComponentTree.length_nodes]
  rw [← Layout.overwrite_eq_compute hproper, PassContext.pass?, Layout.overwrite, hcount,
    h.visibilities?_eq]
  dsimp only [Option.bind_eq_bind, Option.bind_some]
  rw [Layout.arrays_before]
  have hsize := l.size_before t.size
  generalize (if l.size = t.size then l else .fresh t.size) = before at hsize ⊢
  have hvisibilities := t.length_visibilities plain.store
  generalize (t.nodes.map fun n =>
    Modifiers.resolvedVisibility plain.store n.modifiers) = visibilities at hvisibilities ⊢
  have hlength : visibilities.length = before.size := hvisibilities.trans hsize.symm
  have hfits := LayoutPass.fits_start hlength hsize
  have hdepth : t.root.size ≤ t.size + 1 := Nat.le_succ _
  obtain ⟨hmeasured, hmeasure⟩ := h.matches_measure (.ofViewport viewport) .root hdepth hfits
  obtain ⟨hplaced, hplace⟩ := h.mirrors_place .origin .root hdepth hmeasured
  rw [LayoutPass.start?_arrays hlength]
  dsimp only [Option.bind_some]
  rw [LayoutPass.takesPart_arrays]
  split
  · rw [hmeasure]
    dsimp only [Option.bind_some]
    rw [hplace]
    exact hplaced.finish?_arrays
  · exact hfits.finish?_arrays

end PassContext

end Panel
