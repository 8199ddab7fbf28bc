import Panel.Proofs.Layout.Absent
import Panel.Proofs.Single.Agreement

/-!
# Layout keeps what arithmetic keeps

Layout only adds, subtracts, compares and divides by numbers of components; nothing but a gap is
ever multiplied.  So a relation between numbers that is a congruence carries over from rooms to
sizes and from origins to bounds, through every component.  The gaps of a row or column need to be
related only as far as there are children to use them.
-/

namespace Panel

open Single (Congruence)

variable {R : Single → Single → Prop}

/-! ## Sizes, points and rooms -/

/-- Both extents are related. -/
structure Size.Alike (R : Single → Single → Prop) (s s' : Size) : Prop where
  width : R s.width s'.width
  height : R s.height s'.height

/-- Both coordinates are related. -/
structure Point.Alike (R : Single → Single → Prop) (p p' : Point) : Prop where
  x : R p.x p'.x
  y : R p.y p'.y

/-- Origin and size are related. -/
structure Bounds.Alike (R : Single → Single → Prop) (b b' : Bounds) : Prop where
  origin : b.origin.Alike R b'.origin
  size : b.size.Alike R b'.size

/-- Along both axes the limits are related, or there is none. -/
structure Room.Alike (R : Single → Single → Prop) (r r' : Room) : Prop where
  width : Option.Rel R r.width r'.width
  height : Option.Rel R r.height r'.height

theorem Space.alike_refl (hR : Congruence R) (space : Space) : Option.Rel R space space := by
  cases space with
  | none => exact .none
  | some limit => exact .some (hR.refl limit)

theorem Size.alike_refl (hR : Congruence R) (s : Size) : s.Alike R s :=
  ⟨hR.refl _, hR.refl _⟩

theorem Point.alike_refl (hR : Congruence R) (p : Point) : p.Alike R p :=
  ⟨hR.refl _, hR.refl _⟩

theorem Bounds.alike_refl (hR : Congruence R) (b : Bounds) : b.Alike R b :=
  ⟨Point.alike_refl hR _, Size.alike_refl hR _⟩

theorem Room.alike_refl (hR : Congruence R) (r : Room) : r.Alike R r :=
  ⟨Space.alike_refl hR _, Space.alike_refl hR _⟩

theorem Space.alike_map {space space' : Space} (h : Option.Rel R space space')
    {f f' : Single → Single} (hf : ∀ {x x'}, R x x' → R (f x) (f' x')) :
    Option.Rel R (space.map f) (space'.map f') := by
  cases h with
  | none => exact .none
  | some h => exact .some (hf h)

namespace Axis

variable {s s' : Size} {p p' : Point} {r r' : Room}

theorem alike_main (axis : Axis) (h : s.Alike R s') : R (axis.main s) (axis.main s') := by
  cases axis with
  | horizontal => exact h.width
  | vertical => exact h.height

theorem alike_cross (axis : Axis) (h : s.Alike R s') : R (axis.cross s) (axis.cross s') := by
  cases axis with
  | horizontal => exact h.height
  | vertical => exact h.width

theorem alike_mainOf (axis : Axis) (h : p.Alike R p') : R (axis.mainOf p) (axis.mainOf p') := by
  cases axis with
  | horizontal => exact h.x
  | vertical => exact h.y

theorem alike_crossOf (axis : Axis) (h : p.Alike R p') : R (axis.crossOf p) (axis.crossOf p') := by
  cases axis with
  | horizontal => exact h.y
  | vertical => exact h.x

theorem alike_mainSpace (axis : Axis) (h : r.Alike R r') :
    Option.Rel R (axis.mainSpace r) (axis.mainSpace r') := by
  cases axis with
  | horizontal => exact h.width
  | vertical => exact h.height

theorem alike_crossSpace (axis : Axis) (h : r.Alike R r') :
    Option.Rel R (axis.crossSpace r) (axis.crossSpace r') := by
  cases axis with
  | horizontal => exact h.height
  | vertical => exact h.width

variable {along along' across across' : Single}

theorem alike_size (axis : Axis) (halong : R along along') (hacross : R across across') :
    (axis.size along across).Alike R (axis.size along' across') := by
  cases axis with
  | horizontal => exact ⟨halong, hacross⟩
  | vertical => exact ⟨hacross, halong⟩

theorem alike_point (axis : Axis) (halong : R along along') (hacross : R across across') :
    (axis.point along across).Alike R (axis.point along' across') := by
  cases axis with
  | horizontal => exact ⟨halong, hacross⟩
  | vertical => exact ⟨hacross, halong⟩

theorem alike_room (axis : Axis) {along along' across across' : Space}
    (halong : Option.Rel R along along') (hacross : Option.Rel R across across') :
    (axis.room along across).Alike R (axis.room along' across') := by
  cases axis with
  | horizontal => exact ⟨halong, hacross⟩
  | vertical => exact ⟨hacross, halong⟩

end Axis

namespace Dimension

variable {space space' : Space} {content content' : Single}

theorem alike_resolve (hR : Congruence R) (d : Dimension) (hspace : Option.Rel R space space')
    (hcontent : R content content') : R (d.resolve space content) (d.resolve space' content') := by
  cases d with
  | fixed units => exact hR.refl _
  | fill =>
      cases hspace with
      | none => exact hR.extent hcontent
      | some hlimit => exact hR.extent hlimit
  | wrap =>
      cases hspace with
      | none => exact hR.extent hcontent
      | some hlimit => exact hR.extent (hR.min hcontent hlimit)

theorem alike_inner (hR : Congruence R) (d : Dimension) (hspace : Option.Rel R space space')
    (padding : Single) : Option.Rel R (d.inner space padding) (d.inner space' padding) := by
  refine Space.alike_map ?_ fun hlimit => hR.extent (hR.sub hlimit (hR.refl padding))
  cases d with
  | fixed units => exact .some (hR.refl _)
  | _ => exact hspace

end Dimension

theorem Modifiers.alike_innerRoom (hR : Congruence R) (modifiers : Modifiers) {room room' : Room}
    (h : room.Alike R room') : (innerRoom modifiers room).Alike R (innerRoom modifiers room') :=
  ⟨Dimension.alike_inner hR _ h.width _, Dimension.alike_inner hR _ h.height _⟩

theorem Padding.alike_inside (hR : Congruence R) (p : Padding) {b b' : Bounds} (h : b.Alike R b') :
    (p.inside b).Alike R (p.inside b') :=
  ⟨⟨hR.add h.origin.x (hR.refl _), hR.add h.origin.y (hR.refl _)⟩,
    ⟨hR.extent (hR.sub h.size.width (hR.refl _)), hR.extent (hR.sub h.size.height (hR.refl _))⟩⟩

theorem Alignment.alike_offset (hR : Congruence R) (a : Alignment)
    {space space' item item' : Single} (hspace : R space space') (hitem : R item item') :
    R (a.offset space item) (a.offset space' item') := by
  have hfree := hR.clampNegative (hR.sub hspace hitem)
  cases a with
  | start => exact hR.refl _
  | center => exact hR.div _ hfree
  | finish => exact hfree

theorem Arrangement.alike_distribute (hR : Congruence R) (a : Arrangement) {spare spare' : Single}
    (h : R spare spare') (count : Nat) :
    R (a.distribute spare count).1 (a.distribute spare' count).1 ∧
      R (a.distribute spare count).2 (a.distribute spare' count).2 := by
  cases a with
  | start => exact ⟨hR.refl _, hR.refl _⟩
  | center => exact ⟨hR.div _ h, hR.refl _⟩
  | finish => exact ⟨h, hR.refl _⟩
  | spaceBetween =>
      rw [distribute, distribute]
      split
      · exact ⟨hR.refl _, hR.div _ h⟩
      · exact ⟨hR.refl _, hR.refl _⟩
  | spaceAround => exact ⟨hR.div _ (hR.div _ h), hR.div _ h⟩
  | spaceEvenly => exact ⟨hR.div _ h, hR.div _ h⟩

/-! ## Rows, columns and boxes -/

namespace Single.Congruence

variable {extents extents' : List Single}

theorem largest (hR : Congruence R) (h : List.Forall₂ R extents extents') :
    R (Single.largest extents) (Single.largest extents') := by
  rw [Single.largest, Single.largest]
  exact foldl hR.max h (hR.refl .zero)

theorem total (hR : Congruence R) (h : List.Forall₂ R extents extents') :
    R (Single.total extents) (Single.total extents') := by
  rw [Single.total, Single.total]
  exact foldl hR.add h (hR.refl .zero)

theorem sum (hR : Congruence R) (h : List.Forall₂ R extents extents') :
    R (Single.sum extents) (Single.sum extents') := by
  rw [Single.sum, Single.sum]
  exact foldl hR.add h (hR.refl .negZero)

end Single.Congruence

namespace Axis

variable {sizes sizes' : List Size}

theorem alike_map_main (axis : Axis) (h : List.Forall₂ (Size.Alike R) sizes sizes') :
    List.Forall₂ R (sizes.map axis.main) (sizes'.map axis.main) :=
  List.forall₂_map_left_iff.2 (List.forall₂_map_right_iff.2 (h.imp fun _ _ => axis.alike_main))

theorem alike_map_cross (axis : Axis) (h : List.Forall₂ (Size.Alike R) sizes sizes') :
    List.Forall₂ R (sizes.map axis.cross) (sizes'.map axis.cross) :=
  List.forall₂_map_left_iff.2 (List.forall₂_map_right_iff.2 (h.imp fun _ _ => axis.alike_cross))

end Axis

namespace BoxLayout

variable {sizes sizes' : List Size}

theorem alike_contentSize (hR : Congruence R) (h : List.Forall₂ (Size.Alike R) sizes sizes') :
    (contentSize sizes).Alike R (contentSize sizes') :=
  ⟨hR.largest (Axis.horizontal.alike_map_main h), hR.largest (Axis.vertical.alike_map_main h)⟩

theorem alike_origin (hR : Congruence R) (layout : BoxLayout) {inner inner' : Bounds}
    {size size' : Size} (hinner : inner.Alike R inner') (hsize : size.Alike R size') :
    (layout.origin inner size).Alike R (layout.origin inner' size') :=
  ⟨hR.add hinner.origin.x (Alignment.alike_offset hR _ hinner.size.width hsize.width),
    hR.add hinner.origin.y (Alignment.alike_offset hR _ hinner.size.height hsize.height)⟩

end BoxLayout

namespace LinearLayout

/-- The layouts of two rows or columns with some number of children differ only in their spacings,
and these are related as far as that many children use them. -/
structure SpacesAlike (R : Single → Single → Prop) (count : Nat) (l l' : LinearLayout) : Prop where
  arrangement : l'.arrangement = l.arrangement
  alignment : l'.alignment = l.alignment
  gaps : 0 < count → R (l.gaps count) (l'.gaps count)
  between : 0 < count →
    R (l.spacing.extent * (.ofNat count - .one)) (l'.spacing.extent * (.ofNat count - .one))
  spacing : 1 < count → R l.spacing.extent l'.spacing.extent

variable {l l' : LinearLayout} {count : Nat} {sizes sizes' : List Size} {axis : Axis}

theorem spacesAlike_refl (hR : Congruence R) (count : Nat) (l : LinearLayout) :
    SpacesAlike R count l l :=
  ⟨rfl, rfl, fun _ => hR.refl _, fun _ => hR.refl _, fun _ => hR.refl _⟩

theorem SpacesAlike.share (h : SpacesAlike R count l l') (hR : Congruence R) (hcount : 0 < count)
    {space space' : Space} {used used' : Single} (hspace : Option.Rel R space space')
    (hused : R used used') (fillCount : Nat) :
    Option.Rel R (l.share space used count fillCount) (l'.share space' used' count fillCount) :=
  Space.alike_map hspace fun hlimit =>
    hR.extent (hR.div _ (hR.sub (hR.sub hlimit hused) (h.gaps hcount)))

theorem contentSize_nil (l : LinearLayout) (axis : Axis) : l.contentSize axis [] = .empty := rfl

theorem contentSize_cons (l : LinearLayout) (axis : Axis) (s : Size) (rest : List Size) :
    l.contentSize axis (s :: rest) =
      axis.size (Single.total ((s :: rest).map axis.main) + l.gaps (s :: rest).length)
        (Single.largest ((s :: rest).map axis.cross)) := by
  rw [contentSize, if_neg]
  rw [List.isEmpty_cons]
  exact Bool.false_ne_true

theorem SpacesAlike.contentSize (h : SpacesAlike R sizes.length l l') (hR : Congruence R)
    (hsizes : List.Forall₂ (Size.Alike R) sizes sizes') :
    (l.contentSize axis sizes).Alike R (l'.contentSize axis sizes') := by
  have hmain := hR.total (axis.alike_map_main hsizes)
  have hcross := hR.largest (axis.alike_map_cross hsizes)
  have hlength := hsizes.length_eq
  cases hsizes with
  | nil =>
      rw [contentSize_nil, contentSize_nil]
      exact Size.alike_refl hR _
  | @cons s s' rest rest' hs hrest =>
      have hgaps := h.gaps (List.length_pos_of_ne_nil (List.cons_ne_nil s rest))
      rw [contentSize_cons, contentSize_cons, ← hlength]
      exact axis.alike_size (hR.add hmain hgaps) hcross

/-- The last child uses no spacing, so what the spacing is matters only before it. -/
theorem alike_originsFrom (hR : Congruence R) (halignment : l'.alignment = l.alignment)
    {origin origin' : Point} {crossSpace crossSpace' gap gap' cursor cursor' : Single}
    (horigin : origin.Alike R origin') (hcross : R crossSpace crossSpace') (hgap : R gap gap')
    (hcursor : R cursor cursor') (hsizes : List.Forall₂ (Size.Alike R) sizes sizes')
    (hspacing : 1 < sizes.length → R l.spacing.extent l'.spacing.extent) :
    List.Forall₂ (Point.Alike R) (l.originsFrom axis origin crossSpace gap cursor sizes)
      (l'.originsFrom axis origin' crossSpace' gap' cursor' sizes') := by
  induction hsizes generalizing cursor cursor' with
  | nil => exact .nil
  | @cons s s' rest rest' hs hrest ih =>
      rw [originsFrom, originsFrom, halignment]
      refine .cons (axis.alike_point (hR.add (axis.alike_mainOf horigin) hcursor)
        (hR.add (axis.alike_crossOf horigin)
          (Alignment.alike_offset hR _ hcross (axis.alike_cross hs)))) ?_
      cases hrest with
      | nil => exact .nil
      | cons hs' hrest' =>
          have hstep := hspacing (Nat.succ_lt_succ (Nat.succ_pos _))
          exact ih (hR.add hcursor (hR.add (hR.add (axis.alike_main hs) hstep) hgap))
            fun _ => hstep

theorem SpacesAlike.origins (h : SpacesAlike R sizes.length l l') (hR : Congruence R)
    {inner inner' : Bounds} (hinner : inner.Alike R inner')
    (hsizes : List.Forall₂ (Size.Alike R) sizes sizes') :
    List.Forall₂ (Point.Alike R) (l.origins axis inner sizes) (l'.origins axis inner' sizes') := by
  cases sizes with
  | nil =>
      cases hsizes
      exact .nil
  | cons s rest =>
      have hused := hR.add (hR.sum (axis.alike_map_main hsizes)) (h.between (Nat.succ_pos _))
      have hspare := hR.clampNegative (hR.sub (axis.alike_main hinner.size) hused)
      have hdistribute :=
        Arrangement.alike_distribute hR l.arrangement hspare (s :: rest).length
      rw [LinearLayout.origins, LinearLayout.origins, h.arrangement, ← hsizes.length_eq]
      exact alike_originsFrom hR h.alignment hinner.origin (axis.alike_cross hinner.size)
        hdistribute.2 hdistribute.1 hsizes h.spacing

end LinearLayout

namespace ComponentKind

/-- The kinds of two components with some number of children differ only in a spacing, and that is
related as far as so many children use it. -/
inductive SpacesAlike (R : Single → Single → Prop) (count : Nat) :
    ComponentKind → ComponentKind → Prop where
  | row {l l' : LinearLayout} (h : l.SpacesAlike R count l') : SpacesAlike R count (row l) (row l')
  | column {l l' : LinearLayout} (h : l.SpacesAlike R count l') :
      SpacesAlike R count (column l) (column l')
  | box (layout : BoxLayout) : SpacesAlike R count (box layout) (box layout)
  | text (content : TextContent) : SpacesAlike R count (text content) (text content)
  | spacer : SpacesAlike R count spacer spacer

theorem spacesAlike_refl (hR : Congruence R) (count : Nat) (kind : ComponentKind) :
    SpacesAlike R count kind kind := by
  cases kind with
  | row l => exact .row (l.spacesAlike_refl hR count)
  | column l => exact .column (l.spacesAlike_refl hR count)
  | box layout => exact .box layout
  | text content => exact .text content
  | spacer => exact .spacer

theorem SpacesAlike.origins {kind kind' : ComponentKind} {inner inner' : Bounds}
    {sizes sizes' : List Size} (h : SpacesAlike R sizes.length kind kind') (hR : Congruence R)
    (hinner : inner.Alike R inner') (hsizes : List.Forall₂ (Size.Alike R) sizes sizes') :
    List.Forall₂ (Point.Alike R) (kind.origins inner sizes) (kind'.origins inner' sizes') := by
  cases h with
  | row h => exact h.origins hR hinner hsizes
  | column h => exact h.origins hR hinner hsizes
  | box layout =>
      exact List.forall₂_map_left_iff.2 (List.forall₂_map_right_iff.2
        (hsizes.imp fun _ _ => layout.alike_origin hR hinner))
  | text content => exact .nil
  | spacer => exact .nil

end ComponentKind

end Panel
