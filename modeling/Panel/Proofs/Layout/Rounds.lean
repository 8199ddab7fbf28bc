import Panel.Layout.Measured

/-!
# The two rounds of a row or column

A row or column measures its children in two rounds, those that do not fill its axis before those
that do.  In the end every child has been measured once, in room of its own: `linearRoom` says in
which.  Laws of a measure are proved on that form.
-/

namespace Panel

namespace Component

variable {ctx : MeasureContext}

/-- Measuring gives a component that takes part. -/
theorem exists_measure_eq (ctx : MeasureContext) (room : Room) (c : Component) :
    ∃ padding size children, c.measure ctx room = .present c.kind padding size children := by
  obtain ⟨id, kind, modifiers, children⟩ := c
  cases kind <;> exact ⟨_, _, _, by rw [measure]; rfl⟩

theorem zipWith_or_measureEach (first? second? : Component → Option Room) (cs : List Component) :
    List.zipWith Measured.or (measureEach ctx first? cs) (measureEach ctx second? cs) =
      measureEach ctx (fun c => (first? c).or (second? c)) cs := by
  induction cs with
  | nil => rfl
  | cons c cs ih =>
      rw [measureEach, measureEach, measureEach, List.zipWith_cons_cons, ih]
      congr 1
      cases htakesPart : ctx.takesPart c with
      | false => rfl
      | true =>
          cases hfirst : first? c with
          | none => rfl
          | some room =>
              obtain ⟨padding, size, children, hmeasure⟩ := exists_measure_eq ctx room c
              dsimp only [Option.or]
              rw [hmeasure]
              rfl

/-! ## Rows and columns -/

/-- The room of the children that do not fill the axis, in the first round. -/
def rigidRoom? (axis : Axis) (inner : Room) (c : Component) : Option Room :=
  if c.fills axis then none else some (axis.room none (axis.crossSpace inner))

/-- The room of the children that fill the axis, in the second round. -/
def fillingRoom? (axis : Axis) (inner : Room) (share : Space) (c : Component) : Option Room :=
  if c.fills axis then some (axis.room share (axis.crossSpace inner)) else none

/-- The room of a child of a row or column. -/
def linearRoom (axis : Axis) (inner : Room) (share : Space) (c : Component) : Room :=
  axis.room (if c.fills axis then share else none) (axis.crossSpace inner)

/-- The sizes of the children that do not fill the axis. -/
def rigidSizes (ctx : MeasureContext) (axis : Axis) (inner : Room) (cs : List Component) :
    List Size :=
  Measured.sizes (measureEach ctx (rigidRoom? axis inner) cs)

/-- The sizes of the children that fill the axis. -/
def fillingSizes (ctx : MeasureContext) (axis : Axis) (inner : Room) (share : Space)
    (cs : List Component) : List Size :=
  Measured.sizes (measureEach ctx (fillingRoom? axis inner share) cs)

/-- The number of children that fill the axis. -/
def fillCount (ctx : MeasureContext) (axis : Axis) (cs : List Component) : Nat :=
  (cs.filter fun c => ctx.takesPart c && c.fills axis).length

/-- The part of the space along the axis for each child that fills it. -/
def linearShare (ctx : MeasureContext) (axis : Axis) (layout : LinearLayout) (inner : Room)
    (cs : List Component) : Space :=
  layout.share (axis.mainSpace inner) (Single.total ((rigidSizes ctx axis inner cs).map axis.main))
    ((rigidSizes ctx axis inner cs).length + fillCount ctx axis cs) (fillCount ctx axis cs)

/-- A row or column with each child measured in room of its own. -/
def measureLinear (ctx : MeasureContext) (room : Room) (kind : ComponentKind)
    (modifiers : Modifiers) (axis : Axis) (layout : LinearLayout) (cs : List Component) :
    Measured :=
  let inner := Modifiers.innerRoom modifiers room
  let share := linearShare ctx axis layout inner cs
  .of kind modifiers room
    (layout.contentSize axis (rigidSizes ctx axis inner cs ++ fillingSizes ctx axis inner share cs))
    (measureEach ctx (fun c => some (linearRoom axis inner share c)) cs)

theorem rigidRoom?_or_fillingRoom? (axis : Axis) (inner : Room) (share : Space) (c : Component) :
    (rigidRoom? axis inner c).or (fillingRoom? axis inner share c) =
      some (linearRoom axis inner share c) := by
  unfold rigidRoom? fillingRoom? linearRoom
  split <;> rfl

variable {room : Room} {id : ComponentId} {modifiers : Modifiers} {layout : LinearLayout}
  {cs : List Component}

/-- Along any axis, the children of two containers come to the same sizes in both rounds. -/
structure SameRounds (ctx ctx' : MeasureContext) (cs ds : List Component) : Prop where
  rigidSizes : ∀ axis inner, rigidSizes ctx' axis inner ds = rigidSizes ctx axis inner cs
  fillingSizes : ∀ axis inner share,
    fillingSizes ctx' axis inner share ds = fillingSizes ctx axis inner share cs
  fillCount : ∀ axis, fillCount ctx' axis ds = fillCount ctx axis cs

/-- A row or column shares out its space, and comes to a size, by what its children come to. -/
theorem SameRounds.measureLinear_eq {ctx' : MeasureContext} {ds : List Component}
    (h : SameRounds ctx ctx' cs ds) (room : Room) (kind : ComponentKind) (modifiers : Modifiers)
    (axis : Axis) (layout : LinearLayout) :
    let inner := Modifiers.innerRoom modifiers room
    let share := linearShare ctx axis layout inner cs
    measureLinear ctx' room kind modifiers axis layout ds = .of kind modifiers room
      (layout.contentSize axis
        (Component.rigidSizes ctx axis inner cs ++ Component.fillingSizes ctx axis inner share cs))
      (measureEach ctx' (fun c => some (linearRoom axis inner share c)) ds) := by
  intro inner share
  have hshare : linearShare ctx' axis layout inner ds = share := by
    dsimp only [share]
    rw [linearShare, linearShare, h.rigidSizes, h.fillCount]
  rw [measureLinear, hshare, h.rigidSizes, h.fillingSizes]

theorem measure_row : (node id (.row layout) modifiers cs).measure ctx room =
    measureLinear ctx room (.row layout) modifiers .horizontal layout cs := by
  rw [measureLinear]
  simp only [← rigidRoom?_or_fillingRoom?, ← zipWith_or_measureEach]
  rw [measure]
  rfl

theorem measure_column : (node id (.column layout) modifiers cs).measure ctx room =
    measureLinear ctx room (.column layout) modifiers .vertical layout cs := by
  rw [measureLinear]
  simp only [← rigidRoom?_or_fillingRoom?, ← zipWith_or_measureEach]
  rw [measure]
  rfl

theorem measure_box {boxLayout : BoxLayout} :
    (node id (.box boxLayout) modifiers cs).measure ctx room =
      let measured := measureEach ctx (fun _ => some (Modifiers.innerRoom modifiers room)) cs
      .of (.box boxLayout) modifiers room (BoxLayout.contentSize (Measured.sizes measured))
        measured := by
  rw [measure]

theorem measure_text {content : TextContent} :
    (node id (.text content) modifiers cs).measure ctx room =
      .of (.text content) modifiers room (ctx.textSize content) [] := by
  rw [measure]

theorem measure_spacer :
    (node id .spacer modifiers cs).measure ctx room = .of .spacer modifiers room .empty [] := by
  rw [measure]

end Component

end Panel
