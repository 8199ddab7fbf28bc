import Panel.Proofs.Document.Call
import Panel.Proofs.Paint.Drawn
import Panel.Proofs.Result

/-!
# Styles of what is painted

Painting draws one figure after the other, and before each it sets the style for that figure alone.
Rectangles and texts are filled.  Paths come from borders, and their style is as thick as the border
says; a border of no thickness is filled.
-/

namespace Panel

/-- Whether what is drawn in the style is filled, and not outlined. -/
def PaintStyle.fills (s : PaintStyle) : Bool := s.stroke.isZero

/-- A call that draws, with the style that it draws in. -/
structure Figure where
  style : PaintStyle
  drawing : PaintCall

/-- The two calls for a figure. -/
def Figure.calls (f : Figure) : List PaintCall := [.style f.style, f.drawing]

/-! ## Components -/

/-- The figure for a modifier of a component with some bounds. -/
def Modifier.figure? (store : Store) (bounds : Bounds) : Modifier → Option Figure
  | background color => some ⟨.fill (store.resolveColor color), .rect bounds⟩
  | border thickness color =>
    some ⟨.outline (store.resolveColor color) thickness, .path bounds.outline⟩
  | _ => none

/-- The figure for a piece of text. -/
def TextContent.figure (store : Store) (content : TextContent) (origin : Point) : Figure :=
  ⟨⟨store.resolveColor content.color, .zero, content.weight, content.italic⟩,
    .text (store.resolveText content.text) origin⟩

namespace Node

/-- The figures for a node by itself. -/
def figures (store : Store) (bounds : Bounds) (n : Node) : List Figure :=
  n.modifiers.filterMap (Modifier.figure? store bounds) ++
    match n.kind with
    | .text content =>
      let padding := Modifiers.padding n.modifiers
      [content.figure store ⟨bounds.origin.x + padding.left, bounds.origin.y + padding.top⟩]
    | _ => []

variable {store : Store} {bounds : Bounds} {n : Node} {f : Figure}

theorem paint_eq_figures (store : Store) (bounds : Bounds) (n : Node) :
    n.paint store bounds = (n.figures store bounds).flatMap Figure.calls := by
  have hmodifier (m : Modifier) :
      m.paint store bounds = (m.figure? store bounds).toList.flatMap Figure.calls := by
    cases m <;> rfl
  have hmodifiers (ms : Modifiers) : ms.flatMap (Modifier.paint store bounds) =
      (ms.filterMap (Modifier.figure? store bounds)).flatMap Figure.calls := by
    rw [List.filterMap_eq_flatMap_toList, List.flatMap_assoc]
    exact List.flatMap_congr fun m _ => hmodifier m
  rw [figures, List.flatMap_append, ← hmodifiers]
  obtain ⟨id, kind, modifiers, parent, children⟩ := n
  cases kind <;> rfl

/-- Only borders are drawn as paths, and everything else is filled. -/
theorem style_of_mem_figures (h : f ∈ n.figures store bounds) :
    match f.drawing with
    | .rect b => b = bounds ∧ f.style.fills = true
    | .text _ _ => f.style.fills = true
    | .path verbs => verbs = bounds.outline ∧
        ∃ thickness color, .border thickness color ∈ n.modifiers ∧
          f.style = .outline (store.resolveColor color) thickness ∧
          f.style.fills = thickness.isZero
    | .style _ => False := by
  rw [figures, List.mem_append, List.mem_filterMap] at h
  rcases h with ⟨m, hm, hfigure⟩ | htext
  · cases m with
    | background color =>
        obtain rfl := Option.some.inj hfigure
        exact ⟨rfl, rfl⟩
    | border thickness color =>
        obtain rfl := Option.some.inj hfigure
        exact ⟨rfl, thickness, color, hm, rfl, rfl⟩
    | _ => contradiction
  · split at htext
    · obtain rfl := List.mem_singleton.1 htext
      rfl
    · contradiction

theorem mem_figures_of_border {thickness : Single} {color : VariableId}
    (h : .border thickness color ∈ n.modifiers) :
    ⟨.outline (store.resolveColor color) thickness, .path bounds.outline⟩ ∈
      n.figures store bounds :=
  List.mem_append_left _ (List.mem_filterMap.2 ⟨_, h, rfl⟩)

end Node

/-! ## Trees -/

namespace ComponentTree

variable {t : ComponentTree} {store : Store} {l : Layout} {f : Figure}

/-- The figures for the components that are drawn, in order. -/
def figures (t : ComponentTree) (store : Store) (l : Layout) : List Figure :=
  (t.drawn l).flatMap fun i => (t.node? i).toList.flatMap (Node.figures store (l.bounds i))

theorem paint_eq_figures (t : ComponentTree) (store : Store) (l : Layout) :
    t.paint store l = (t.figures store l).flatMap Figure.calls := by
  rw [paint_eq, figures, List.flatMap_assoc]
  refine List.flatMap_congr fun i _ => ?_
  rw [paintAt]
  cases t.node? i with
  | none => rfl
  | some n =>
      rw [Option.toList_some, List.flatMap_singleton]
      exact n.paint_eq_figures store (l.bounds i)

theorem mem_figures : f ∈ t.figures store l ↔
    ∃ i ∈ t.drawn l, ∃ n, t.node? i = some n ∧ f ∈ n.figures store (l.bounds i) := by
  simp only [figures, List.mem_flatMap, Option.mem_toList]

end ComponentTree

/-! ## Documents -/

namespace Document

variable {bytes : List UInt8} {config : Config} {loaded : Document}

/-- In whatever order a document is called, it is painted as a sequence of figures, each with a
style of its own.  Rectangles and texts are filled; the paths are the outlines of the components
with borders, and their styles are as thick as the borders.  So a path is filled only if its border
has no thickness. -/
theorem paint_run (h : load bytes config = .ok loaded) (calls : List HostCall) :
    let t := loaded.scene.content.tree
    let played := loaded.run calls
    ∃ figures : List Figure, played.paint = figures.flatMap Figure.calls ∧
      (∀ f ∈ figures, ∃ i n, i ∈ t.drawn played.scene.layout ∧ t.node? i = some n ∧
        match f.drawing with
        | .rect b => b = played.scene.layout.bounds i ∧ f.style.fills = true
        | .text _ _ => f.style.fills = true
        | .path verbs => verbs = (played.scene.layout.bounds i).outline ∧
            ∃ thickness color, .border thickness color ∈ n.modifiers ∧
              f.style = .outline (played.scene.content.store.resolveColor color) thickness ∧
              f.style.fills = thickness.isZero
        | .style _ => False) ∧
      ∀ i n thickness color, i ∈ t.drawn played.scene.layout → t.node? i = some n →
        .border thickness color ∈ n.modifiers →
          ⟨.outline (played.scene.content.store.resolveColor color) thickness,
            .path (played.scene.layout.bounds i).outline⟩ ∈ figures := by
  intro t played
  have hloaded := pristine_of_load h
  have htree : played.scene.content.tree = t := (hloaded.follows.run hloaded calls).tree_eq
  refine ⟨t.figures played.scene.content.store played.scene.layout, ?_, fun f hf => ?_,
    fun i n thickness color hi hnode hborder => ?_⟩
  · rw [paint, Scene.paint, htree]
    exact t.paint_eq_figures _ _
  · obtain ⟨i, hi, n, hnode, hmem⟩ := ComponentTree.mem_figures.1 hf
    exact ⟨i, n, hi, hnode, Node.style_of_mem_figures hmem⟩
  · exact ComponentTree.mem_figures.2 ⟨i, hi, n, hnode, Node.mem_figures_of_border hborder⟩

/-- A text with a background and a border that is one unit thick. -/
theorem paint_run_text :
    let bytes : List UInt8 := [0, 3, 0, 3, 0, 0, 0, 61, 4, 0, 0, 0, 1, 255, 255, 0, 0,
      3, 0, 0, 0, 2, 0, 0, 0, 1, 97, 34, 0, 0, 0, 1, 0, 0,
      51, 0, 0, 0, 1, 52, 63, 128, 0, 0, 0, 0, 0, 1,
      35, 0, 0, 0, 2, 0, 0, 0, 2, 0, 0, 0, 1, 63, 128, 0, 0, 1, 144, 0, 47]
    let calls : List HostCall := [.update .empty fun _ _ => .empty]
    ∃ loaded, load bytes {} = .ok loaded ∧ ∃ figures : List Figure,
      (loaded.run calls).paint = figures.flatMap Figure.calls ∧
      (loaded.run calls).paint.length = 6 ∧
      ∀ f ∈ figures, ∀ verbs, f.drawing = .path verbs → f.style.fills = false := by
  intro bytes calls
  have hfacts : (load bytes {}).toOption.any (fun loaded => decide (
      (loaded.run calls).paint.length = 6 ∧
      loaded.scene.content.tree.nodes.map (·.modifiers) =
        [[], [.background ⟨1⟩, .border .one ⟨1⟩]])) = true := by
    decide +kernel
  obtain ⟨loaded, hload, hfacts⟩ := Result.exists_ok_of_any hfacts
  obtain ⟨hlength, hmodifiers⟩ := of_decide_eq_true hfacts
  obtain ⟨figures, hpaint, hfigures, -⟩ := paint_run hload calls
  refine ⟨loaded, hload, figures, hpaint, hlength, fun f hf verbs hpath => ?_⟩
  obtain ⟨i, n, -, hnode, hstyle⟩ := hfigures f hf
  rw [hpath] at hstyle
  obtain ⟨-, thickness, color, hborder, -, hfills⟩ := hstyle
  have hn := List.mem_map_of_mem (f := (·.modifiers)) (List.mem_of_getElem? hnode)
  rw [hmodifiers, List.mem_pair] at hn
  rcases hn with hn | hn
  · rw [hn] at hborder
    exact absurd hborder List.not_mem_nil
  · obtain ⟨rfl, -⟩ : thickness = .one ∧ color = ⟨1⟩ := by simpa [hn] using hborder
    rw [hfills]
    rfl

/-- A box with a border of no thickness is filled along its outline. -/
theorem paint_zero_border :
    let bytes : List UInt8 := [0, 3, 0, 3, 0, 0, 0, 38, 4, 0, 0, 0, 1, 255, 255, 0, 0,
      48, 1, 65, 32, 0, 0, 49, 1, 65, 32, 0, 0, 52, 0, 0, 0, 0, 0, 0, 0, 1,
      34, 0, 0, 0, 1, 0, 0, 47]
    let ten : Single := ⟨0x41200000⟩
    let outline : List PathVerb := (Bounds.mk .origin ⟨ten, ten⟩).outline
    ∃ loaded, load bytes {} = .ok loaded ∧
      (loaded.run [.update .empty fun _ _ => .empty]).paint =
        [.style (.fill ⟨255, 0, 0, 255⟩), .path outline] := by
  intro bytes ten outline
  have hpaint : (load bytes {}).toOption.any (fun loaded => decide (
      (loaded.run [.update .empty fun _ _ => .empty]).paint =
        [.style (.fill ⟨255, 0, 0, 255⟩), .path outline])) = true := by
    decide +kernel
  obtain ⟨loaded, hload, hpaint⟩ := Result.exists_ok_of_any hpaint
  exact ⟨loaded, hload, of_decide_eq_true hpaint⟩

end Document

end Panel
