import Panel.Proofs.Component.Pruned
import Panel.Proofs.Dependency.Appearance
import Panel.Proofs.Layout.Extent
import Panel.Proofs.Paint.Drawn

/-!
# What layout takes from the variables

Of the variables, layout looks only at which components take part and at the texts that they show.
Of a modifier for visibility it sees no more than that either.  So two trees that differ in such
modifiers only, over two stores, have the same bounds if in both the same components take part and
show the same texts.
-/

namespace Panel

/-! ## Modifiers but for visibility -/

/-- The modifiers but for those of visibility. -/
def Modifiers.withoutVisibility (ms : Modifiers) : Modifiers :=
  ms.filter fun m => m.visibility?.isNone

namespace Modifiers

variable {α : Type} {f : Modifier → Option α} {ms ns : Modifiers}

theorem filterMap_withoutVisibility (hf : ∀ source, f (.visibility source) = none)
    (ms : Modifiers) : (withoutVisibility ms).filterMap f = ms.filterMap f := by
  rw [withoutVisibility, List.filterMap_filter]
  apply List.filterMap_congr
  intro m _
  cases m with
  | visibility source => exact (hf source).symm
  | _ => rfl

theorem findSome?_withoutVisibility (hf : ∀ source, f (.visibility source) = none)
    (ms : Modifiers) :
    (withoutVisibility ms).reverse.findSome? f = ms.reverse.findSome? f := by
  rw [← List.head?_filterMap, ← List.head?_filterMap, List.filterMap_reverse,
    List.filterMap_reverse, filterMap_withoutVisibility hf]

theorem width_withoutVisibility (ms : Modifiers) : width (withoutVisibility ms) = width ms := by
  rw [width, width, findSome?_withoutVisibility fun _ => rfl]

theorem height_withoutVisibility (ms : Modifiers) : height (withoutVisibility ms) = height ms := by
  rw [height, height, findSome?_withoutVisibility fun _ => rfl]

theorem padding_withoutVisibility (ms : Modifiers) :
    padding (withoutVisibility ms) = padding ms := by
  rw [padding, padding, filterMap_withoutVisibility fun _ => rfl]

theorem width_congr (h : withoutVisibility ns = withoutVisibility ms) : width ns = width ms := by
  rw [← width_withoutVisibility, h, width_withoutVisibility]

theorem height_congr (h : withoutVisibility ns = withoutVisibility ms) :
    height ns = height ms := by
  rw [← height_withoutVisibility, h, height_withoutVisibility]

theorem padding_congr (h : withoutVisibility ns = withoutVisibility ms) :
    padding ns = padding ms := by
  rw [← padding_withoutVisibility, h, padding_withoutVisibility]

theorem innerRoom_congr (h : withoutVisibility ns = withoutVisibility ms) (room : Room) :
    innerRoom ns room = innerRoom ms room := by
  rw [innerRoom, innerRoom, width_congr h, height_congr h, padding_congr h]

end Modifiers

theorem Measured.of_congr {ms ns : Modifiers}
    (h : Modifiers.withoutVisibility ns = Modifiers.withoutVisibility ms) (kind : ComponentKind)
    (room : Room) (content : Size) (children : List Measured) :
    Measured.of kind ns room content children = Measured.of kind ms room content children := by
  rw [of, of, Modifiers.width_congr h, Modifiers.height_congr h, Modifiers.padding_congr h]

/-! ## Trees but for visibility -/

/-- The node without its modifiers for visibility. -/
def Node.withoutVisibility (n : Node) : Node :=
  { n with modifiers := Modifiers.withoutVisibility n.modifiers }

namespace Component

mutual

/-- The tree without modifiers for visibility. -/
def withoutVisibility : Component → Component
  | node id kind modifiers children =>
    node id kind (Modifiers.withoutVisibility modifiers) (withoutVisibilityAll children)

/-- The trees without modifiers for visibility. -/
def withoutVisibilityAll : List Component → List Component
  | [] => []
  | c :: rest => c.withoutVisibility :: withoutVisibilityAll rest

end

mutual

theorem size_withoutVisibility : (c : Component) → c.withoutVisibility.size = c.size
  | node id kind modifiers children => by
      rw [withoutVisibility, size, size, sizeAll_withoutVisibilityAll children]

theorem sizeAll_withoutVisibilityAll :
    (cs : List Component) → sizeAll (withoutVisibilityAll cs) = sizeAll cs
  | [] => rfl
  | c :: rest => by
      rw [withoutVisibilityAll, sizeAll, sizeAll, size_withoutVisibility c,
        sizeAll_withoutVisibilityAll rest]

end

theorem numbering_withoutVisibilityAll (index : Nat) (cs : List Component) :
    numbering index (withoutVisibilityAll cs) = numbering index cs := by
  induction cs generalizing index with
  | nil => rfl
  | cons c cs ih => rw [withoutVisibilityAll, numbering, numbering, size_withoutVisibility, ih]

mutual

theorem flatten_withoutVisibility (parent : Option Nat) (index : Nat) : (c : Component) →
    c.withoutVisibility.flatten parent index =
      (c.flatten parent index).map Node.withoutVisibility
  | node id kind modifiers children => by
      rw [withoutVisibility, flatten, flatten, List.map_cons,
        flattenAll_withoutVisibilityAll index (index + 1) children, numbering_withoutVisibilityAll]
      rfl

theorem flattenAll_withoutVisibilityAll (parent index : Nat) : (cs : List Component) →
    flattenAll parent index (withoutVisibilityAll cs) =
      (flattenAll parent index cs).map Node.withoutVisibility
  | [] => rfl
  | c :: rest => by
      rw [withoutVisibilityAll, flattenAll, flattenAll, List.map_append, size_withoutVisibility,
        flatten_withoutVisibility _ _ c, flattenAll_withoutVisibilityAll _ _ rest]

end

variable {c d : Component}

theorem withoutVisibility_modifiers (c : Component) :
    c.withoutVisibility.modifiers = Modifiers.withoutVisibility c.modifiers := by
  cases c
  rfl

theorem size_congr (h : d.withoutVisibility = c.withoutVisibility) : d.size = c.size := by
  rw [← size_withoutVisibility, h, size_withoutVisibility]

theorem fills_withoutVisibility_congr {axis : Axis}
    (h : d.withoutVisibility = c.withoutVisibility) : d.fills axis = c.fills axis := by
  have hmodifiers := congrArg Component.modifiers h
  rw [withoutVisibility_modifiers, withoutVisibility_modifiers] at hmodifiers
  cases axis with
  | horizontal => rw [fills, fills, Modifiers.width_congr hmodifiers]
  | vertical => rw [fills, fills, Modifiers.height_congr hmodifiers]

end Component

/-! ## Measuring -/

/-- What measuring takes from the variables for a node: whether it takes part, and the text that it
shows. -/
def Node.flow (store : Store) (n : Node) : Bool × Option String :=
  ((n.appearance store).visibility.takesSpace, (n.appearance store).content.map Prod.fst)

namespace Component

variable {s s' : Store} {textMeasure : TextMeasure}

/-- What measuring takes from the variables for a tree. -/
def flows (store : Store) (c : Component) : List (Bool × Option String) :=
  c.unlinked.map (Node.flow store)

/-- What measuring takes from the variables for some trees. -/
def flowsAll (store : Store) (cs : List Component) : List (Bool × Option String) :=
  (unlinkedAll cs).map (Node.flow store)

theorem flows_node {id : ComponentId} {kind : ComponentKind} {modifiers : Modifiers}
    {children : List Component} : (node id kind modifiers children).flows s =
      Node.flow s ⟨id, kind, modifiers, none, []⟩ :: flowsAll s children := by
  rw [flows, unlinked, List.map_cons, flowsAll]

theorem flowsAll_cons {c : Component} {cs : List Component} :
    flowsAll s (c :: cs) = c.flows s ++ flowsAll s cs := by
  rw [flowsAll, unlinkedAll, List.map_append, flows, flowsAll]

theorem takesPart_of_flows (textMeasure : TextMeasure) {c d : Component}
    (h : d.flows s' = c.flows s) :
    MeasureContext.takesPart ⟨s', textMeasure⟩ d = MeasureContext.takesPart ⟨s, textMeasure⟩ c := by
  obtain ⟨id, kind, modifiers, children⟩ := c
  obtain ⟨id', kind', modifiers', children'⟩ := d
  rw [flows_node, flows_node] at h
  exact congrArg Prod.fst (List.cons.inj h).1

/-- However much room the children of a container are given, as long as that does not depend on
modifiers for visibility, they are measured alike. -/
structure ChildrenAlike (ctx ctx' : MeasureContext) (cs ds : List Component) : Prop where
  fillCount : ∀ axis, fillCount ctx' axis ds = fillCount ctx axis cs
  measureEach : ∀ room? : Component → Option Room,
    (∀ c d : Component, d.withoutVisibility = c.withoutVisibility → room? d = room? c) →
      measureEach ctx' room? ds = measureEach ctx room? cs

namespace ChildrenAlike

variable {ctx ctx' : MeasureContext} {cs ds : List Component} {axis : Axis}
  {layout : LinearLayout} {modifiers modifiers' : Modifiers}

theorem sameRounds (h : ChildrenAlike ctx ctx' cs ds) : SameRounds ctx ctx' cs ds where
  rigidSizes := by
    intro axis inner
    rw [rigidSizes, rigidSizes, h.measureEach]
    intro c d hbare
    rw [rigidRoom?, rigidRoom?, fills_withoutVisibility_congr hbare]
  fillingSizes := by
    intro axis inner share
    rw [fillingSizes, fillingSizes, h.measureEach]
    intro c d hbare
    rw [fillingRoom?, fillingRoom?, fills_withoutVisibility_congr hbare]
  fillCount := h.fillCount

theorem measureLinear_eq (h : ChildrenAlike ctx ctx' cs ds)
    (hbare : Modifiers.withoutVisibility modifiers' = Modifiers.withoutVisibility modifiers)
    (room : Room) (kind : ComponentKind) :
    measureLinear ctx' room kind modifiers' axis layout ds =
      measureLinear ctx room kind modifiers axis layout cs := by
  rw [h.sameRounds.measureLinear_eq, measureLinear, Modifiers.innerRoom_congr hbare,
    Measured.of_congr hbare, h.measureEach]
  intro c d hchild
  rw [linearRoom, linearRoom, fills_withoutVisibility_congr hchild]

end ChildrenAlike

mutual

theorem measure_congr : (c d : Component) → d.withoutVisibility = c.withoutVisibility →
    d.flows s' = c.flows s → (room : Room) →
      d.measure ⟨s', textMeasure⟩ room = c.measure ⟨s, textMeasure⟩ room
  | node id kind modifiers children, node id' kind' modifiers' children', hbare, hflows, room => by
      rw [withoutVisibility, withoutVisibility] at hbare
      obtain ⟨rfl, rfl, hmodifiers, hchildren⟩ := Component.node.inj hbare
      rw [flows_node, flows_node] at hflows
      obtain ⟨hflow, hflows⟩ := List.cons.inj hflows
      have halike := childrenAlike_of_flowsAll children children' hchildren hflows
      cases kind' with
      | row layout =>
          rw [measure_row, measure_row]
          exact halike.measureLinear_eq hmodifiers room _
      | column layout =>
          rw [measure_column, measure_column]
          exact halike.measureLinear_eq hmodifiers room _
      | box layout =>
          rw [measure_box, measure_box, Modifiers.innerRoom_congr hmodifiers,
            halike.measureEach _ fun _ _ _ => rfl]
          exact Measured.of_congr hmodifiers _ _ _ _
      | text content =>
          have htext : s'.resolveText content.text = s.resolveText content.text :=
            Option.some.inj (congrArg Prod.snd hflow)
          rw [measure_text, measure_text, MeasureContext.textSize, MeasureContext.textSize, htext]
          exact Measured.of_congr hmodifiers _ _ _ _
      | spacer =>
          rw [measure_spacer, measure_spacer]
          exact Measured.of_congr hmodifiers _ _ _ _

theorem childrenAlike_of_flowsAll : (cs ds : List Component) →
    withoutVisibilityAll ds = withoutVisibilityAll cs → flowsAll s' ds = flowsAll s cs →
      ChildrenAlike ⟨s, textMeasure⟩ ⟨s', textMeasure⟩ cs ds
  | [], [], _, _ => ⟨fun _ => rfl, fun _ _ => rfl⟩
  | [], d :: ds, hbare, _ => by
      rw [withoutVisibilityAll, withoutVisibilityAll] at hbare
      contradiction
  | c :: cs, [], hbare, _ => by
      rw [withoutVisibilityAll, withoutVisibilityAll] at hbare
      contradiction
  | c :: cs, d :: ds, hbare, hflows => by
      rw [withoutVisibilityAll, withoutVisibilityAll] at hbare
      obtain ⟨hfirst, hrest⟩ := List.cons.inj hbare
      rw [flowsAll_cons, flowsAll_cons] at hflows
      have hlength : (d.flows s').length = (c.flows s).length := by
        rw [flows, flows, List.length_map, List.length_map, length_unlinked, length_unlinked,
          size_congr hfirst]
      obtain ⟨hflow, hflows⟩ := List.append_inj hflows hlength
      have halike := childrenAlike_of_flowsAll cs ds hrest hflows
      have htakesPart := takesPart_of_flows textMeasure hflow
      constructor
      · intro axis
        have hcount := halike.fillCount axis
        rw [fillCount, fillCount] at hcount ⊢
        rw [List.filter_cons, List.filter_cons, htakesPart, fills_withoutVisibility_congr hfirst]
        split
        · rw [List.length_cons, List.length_cons, hcount]
        · exact hcount
      · intro room? hroom
        rw [measureEach, measureEach, halike.measureEach room? hroom, htakesPart,
          hroom c d hfirst, size_congr hfirst]
        congr 1
        split
        · exact measure_congr c d hfirst hflow _
        · rfl

end

end Component

/-! ## Passes -/

namespace ComponentTree

variable {t t' : ComponentTree} {s s' : Store} {textMeasure : TextMeasure} {viewport : Size}

theorem map_node?_withoutVisibility (hbare : t'.root.withoutVisibility = t.root.withoutVisibility)
    (j : Nat) :
    (t'.node? j).map Node.withoutVisibility = (t.node? j).map Node.withoutVisibility := by
  rw [node?, node?, nodes, nodes, ← List.getElem?_map, ← List.getElem?_map,
    ← Component.flatten_withoutVisibility, ← Component.flatten_withoutVisibility, hbare]

theorem bounds_congr (hbare : t'.root.withoutVisibility = t.root.withoutVisibility)
    (hflows : t'.root.flows s' = t.root.flows s) :
    t'.bounds ⟨s', textMeasure⟩ viewport = t.bounds ⟨s, textMeasure⟩ viewport := by
  rw [bounds, bounds, Component.takesPart_of_flows textMeasure hflows,
    Component.measure_congr t.root t'.root hbare hflows, size, size, Component.size_congr hbare]

end ComponentTree

end Panel
