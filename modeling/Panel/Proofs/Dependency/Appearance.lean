import Panel.Component.Resolve
import Panel.Proofs.Dependency.Reach
import Panel.Proofs.Derived.Refresh

/-!
# What a change can be seen in

A component looks the same as long as the variables that it mentions do not change.  Between two
settled stores with the same lists, a variable changes only if it was written or is computed from
one that was.  So the components that look different are among those that depend on what was
written.
-/

namespace Panel

/-! ## What a component looks like -/

/-- What a component shows of the variables. -/
structure Appearance where
  visibility : Visibility
  /-- The text of a piece of text, with its color. -/
  content : Option (String × Color)
  /-- The colors of backgrounds and borders, in order. -/
  colors : List Color
deriving DecidableEq, Repr

/-- The color of a background or border. -/
def Modifier.color? : Modifier → Option VariableId
  | background color => some color
  | border _ color => some color
  | _ => none

/-- What the content of a component shows. -/
def ComponentKind.shows (store : Store) : ComponentKind → Option (String × Color)
  | text content => some (store.resolveText content.text, store.resolveColor content.color)
  | _ => none

/-- What a component shows at present. -/
def Node.appearance (store : Store) (n : Node) : Appearance where
  visibility := Modifiers.resolvedVisibility store n.modifiers
  content := n.kind.shows store
  colors := (n.modifiers.filterMap Modifier.color?).map store.resolveColor

/-! ## What a component reads -/

/-- What a component takes a variable for. -/
inductive Reading where
  | visibility
  | text
  | color
deriving DecidableEq, Repr

/-- Whether a variable has a value that it can be taken for. -/
def Store.resolves (s : Store) (id : VariableId) : Reading → Bool
  | .visibility => (s.getInt id).isOk
  | .text => (s.getText id).isOk
  | .color => (s.getColor id).isOk

/-- A node takes a variable for something. -/
inductive Node.Takes (n : Node) : Reading → VariableId → Prop where
  | visibility {id} (h : .visibility (.reference id) ∈ n.modifiers) : n.Takes .visibility id
  | text {content} (h : n.kind = .text content) : n.Takes .text content.text
  | textColor {content} (h : n.kind = .text content) : n.Takes .color content.color
  | color {m id} (hm : m ∈ n.modifiers) (h : m.color? = some id) : n.Takes .color id

/-- In two stores a variable has the same value, or in neither of them one that the node can take
it for. -/
def Node.SeesSame (n : Node) (s t : Store) (id : VariableId) : Prop :=
  t.get id = s.get id ∨
    ∀ reading, n.Takes reading id → s.resolves id reading = false ∧ t.resolves id reading = false

section

variable {s t : Store} {id : VariableId} {n : Node}

theorem Store.resolveText_of_not_resolves (h : s.resolves id .text = false) :
    s.resolveText id = "" := by
  rw [resolves] at h
  rw [resolveText]
  cases hget : s.getText id with
  | ok value =>
      rw [hget] at h
      contradiction
  | error => rfl

theorem Store.resolveColor_of_not_resolves (h : s.resolves id .color = false) :
    s.resolveColor id = .transparent := by
  rw [resolves] at h
  rw [resolveColor]
  cases hget : s.getColor id with
  | ok value =>
      rw [hget] at h
      contradiction
  | error => rfl

theorem VisibilitySource.resolve_of_not_resolves (h : s.resolves id .visibility = false) :
    (reference id).resolve s = .visible := by
  rw [Store.resolves] at h
  rw [resolve]
  cases hget : s.getInt id with
  | ok value =>
      rw [hget] at h
      contradiction
  | error => rfl

theorem Modifiers.mem_reads {ms : Modifiers} {m : Modifier} (hm : m ∈ ms)
    (hid : m.mentioned? = some id) : id ∈ reads ms := by
  rw [reads, VariableId.mem_foldl_addTo]
  exact .inr (List.mem_filterMap.2 ⟨m, hm, hid⟩)

namespace Node.Takes

theorem mem_kind_reads {content : TextContent} (hkind : n.kind = .text content)
    (hid : id = content.text ∨ id = content.color) : id ∈ n.kind.reads := by
  rw [hkind, ComponentKind.reads]
  split <;> simp_all

/-- What a component takes a variable for, other than its visibility, is its content or a color. -/
theorem mem_of_ne_visibility {reading : Reading} (h : n.Takes reading id)
    (hreading : reading ≠ .visibility) :
    id ∈ n.kind.reads ++ n.modifiers.filterMap Modifier.color? := by
  cases h with
  | visibility h => contradiction
  | text h => exact List.mem_append_left _ (mem_kind_reads h (.inl rfl))
  | textColor h => exact List.mem_append_left _ (mem_kind_reads h (.inr rfl))
  | color hm h => exact List.mem_append_right _ (List.mem_filterMap.2 ⟨_, hm, h⟩)

/-- A component mentions every variable that it takes for something. -/
theorem mem_reads {reading : Reading} (h : n.Takes reading id) : id ∈ n.reads := by
  by_cases hreading : reading = .visibility
  · subst hreading
    cases h with
    | visibility h => exact List.mem_append_right _ (Modifiers.mem_reads h rfl)
  · rcases List.mem_append.1 (h.mem_of_ne_visibility hreading) with hcontent | hcolor
    · exact List.mem_append_left _ hcontent
    · obtain ⟨m, hm, hcolor⟩ := List.mem_filterMap.1 hcolor
      apply List.mem_append_right _ (Modifiers.mem_reads hm _)
      cases m <;> first | contradiction | exact hcolor

end Node.Takes

/-- The visibility of a component comes from one of its modifiers. -/
theorem Modifiers.mem_of_visibility_eq {ms : Modifiers} (h : visibility ms = .reference id) :
    .visibility (.reference id) ∈ ms := by
  rw [visibility] at h
  cases hfind : ms.reverse.findSome? Modifier.visibility? with
  | none =>
      rw [hfind] at h
      contradiction
  | some source =>
      rw [hfind] at h
      obtain rfl : source = .reference id := h
      obtain ⟨m, hm, hvisibility⟩ := List.exists_of_findSome?_eq_some hfind
      rw [List.mem_reverse] at hm
      cases m with
      | visibility source =>
          cases hvisibility
          exact hm
      | _ => contradiction

namespace Node.SeesSame

theorem resolveText_eq (h : n.SeesSame s t id) (htakes : n.Takes .text id) :
    t.resolveText id = s.resolveText id := by
  rcases h with hget | hneither
  · rw [Store.resolveText, Store.resolveText, Store.getText, Store.getText, hget]
  · obtain ⟨hs, ht⟩ := hneither _ htakes
    rw [Store.resolveText_of_not_resolves hs, Store.resolveText_of_not_resolves ht]

theorem resolveColor_eq (h : n.SeesSame s t id) (htakes : n.Takes .color id) :
    t.resolveColor id = s.resolveColor id := by
  rcases h with hget | hneither
  · rw [Store.resolveColor, Store.resolveColor, Store.getColor, Store.getColor, hget]
  · obtain ⟨hs, ht⟩ := hneither _ htakes
    rw [Store.resolveColor_of_not_resolves hs, Store.resolveColor_of_not_resolves ht]

theorem resolve_eq (h : n.SeesSame s t id) (htakes : n.Takes .visibility id) :
    (VisibilitySource.reference id).resolve t = (VisibilitySource.reference id).resolve s := by
  rcases h with hget | hneither
  · rw [VisibilitySource.resolve, VisibilitySource.resolve, Store.getInt, Store.getInt, hget]
  · obtain ⟨hs, ht⟩ := hneither _ htakes
    rw [VisibilitySource.resolve_of_not_resolves hs, VisibilitySource.resolve_of_not_resolves ht]

end Node.SeesSame

theorem Node.shows_congr
    (h : ∀ reading id, n.Takes reading id → reading ≠ .visibility → n.SeesSame s t id) :
    n.kind.shows t = n.kind.shows s := by
  cases hkind : n.kind with
  | text content =>
      have htext : n.Takes .text content.text := .text hkind
      have hcolor : n.Takes .color content.color := .textColor hkind
      have htextSame := h _ _ htext (by decide)
      have hcolorSame := h _ _ hcolor (by decide)
      rw [ComponentKind.shows, ComponentKind.shows, htextSame.resolveText_eq htext,
        hcolorSame.resolveColor_eq hcolor]
  | _ => rfl

theorem Node.colors_congr
    (h : ∀ reading id, n.Takes reading id → reading ≠ .visibility → n.SeesSame s t id) :
    (n.appearance t).colors = (n.appearance s).colors := by
  apply List.map_congr_left
  intro id hid
  obtain ⟨m, hm, hcolor⟩ := List.mem_filterMap.1 hid
  have htakes : n.Takes .color id := .color hm hcolor
  exact (h _ _ htakes (by decide)).resolveColor_eq htakes

/-- A component looks the same in stores that say the same of what it mentions. -/
theorem Node.appearance_congr_of_seesSame (h : ∀ id ∈ n.reads, n.SeesSame s t id) :
    n.appearance t = n.appearance s := by
  have hsees (reading : Reading) (id : VariableId) (htakes : n.Takes reading id) :
      n.SeesSame s t id := h id htakes.mem_reads
  have hvisibility : Modifiers.resolvedVisibility t n.modifiers =
      Modifiers.resolvedVisibility s n.modifiers := by
    rw [Modifiers.resolvedVisibility, Modifiers.resolvedVisibility]
    cases hsource : Modifiers.visibility n.modifiers with
    | literal visibility => rfl
    | reference id =>
        have htakes : n.Takes .visibility id := .visibility (Modifiers.mem_of_visibility_eq hsource)
        exact (hsees _ _ htakes).resolve_eq htakes
  have hcontent := shows_congr fun reading id htakes _ => hsees reading id htakes
  have hcolors := colors_congr fun reading id htakes _ => hsees reading id htakes
  dsimp only [appearance] at hcolors
  rw [appearance, appearance, hvisibility, hcontent, hcolors]

/-- A component looks the same in stores that agree on what it mentions. -/
theorem Node.appearance_congr (h : ∀ id ∈ n.reads, t.get id = s.get id) :
    n.appearance t = n.appearance s :=
  appearance_congr_of_seesSame fun id hid => .inl (h id hid)

end

/-! ## What changes with a variable -/

namespace DependencyIndex

variable {content : Content} {t : Store} {written : List VariableId} {id : VariableId}

theorem mem_readersOf_of {d : DerivedVariable} {other : VariableId} (hd : d ∈ content.derived)
    (hother : other ∈ d.recipe.dependencies content.store) :
    d.id ∈ (of content).readersOf other :=
  mem_readersOf.2 ⟨_, List.mem_map_of_mem hd, hother⟩

/-- A variable that changed is computed from one that was written: by induction on the variables
declared so far, because a recipe computes something else only if it reads something else. -/
theorem reaches_of_get_ne_of_append {front back : List DerivedVariable}
    (hsplit : content.derived = front ++ back)
    (hordered : content.store.Ordered content.derived)
    (hbefore : content.store.Settled content.derived) (hafter : t.Settled content.derived)
    (hkept : ∀ id, id ∉ content.derived.map (·.id) → id ∉ written →
      t.get id = content.store.get id)
    (hid : id ∉ back.map (·.id)) (hne : t.get id ≠ content.store.get id) :
    ∃ source ∈ written, (of content).Reaches source id := by
  induction front using List.reverseRecOn generalizing back id with
  | nil =>
      refine ⟨id, ?_, Relation.ReflTransGen.refl⟩
      by_contra hwritten
      rw [hsplit] at hkept
      exact hne (hkept id hid hwritten)
  | append_singleton front d ih =>
      rw [List.append_assoc, List.singleton_append] at hsplit
      by_cases heq : id = d.id
      · have hd : d ∈ content.derived := by
          rw [hsplit]
          exact List.mem_append_right front List.mem_cons_self
        have hreads : ∃ other ∈ d.recipe.dependencies content.store,
            t.get other ≠ content.store.get other := by
          by_contra hsame
          push Not at hsame
          apply hne
          rw [heq, hafter d hd, hbefore d hd, Recipe.value_congr hsame]
        obtain ⟨other, hother, hchanged⟩ := hreads
        have hearlier : other ∉ (d :: back).map (·.id) := by
          rw [hsplit] at hordered
          exact hordered.notMem_of_mem_dependencies hother
        obtain ⟨source, hsource, hreaches⟩ := ih hsplit hearlier hchanged
        rw [heq]
        exact ⟨source, hsource, hreaches.tail (mem_readersOf_of hd hother)⟩
      · apply ih hsplit _ hne
        rw [List.map_cons, List.mem_cons, not_or]
        exact ⟨heq, hid⟩

/-- A component that looks different depends on a variable that was written. -/
theorem mem_affectedBy_of_appearance_ne {i : Nat} {n : Node}
    (hordered : content.store.Ordered content.derived)
    (hbefore : content.store.Settled content.derived) (hafter : t.Settled content.derived)
    (hkept : ∀ id, id ∉ content.derived.map (·.id) → id ∉ written →
      t.get id = content.store.get id)
    (hnode : content.tree.node? i = some n)
    (hne : n.appearance t ≠ n.appearance content.store) :
    i ∈ (of content).affectedBy written := by
  have hmentioned : ∃ id ∈ n.reads, t.get id ≠ content.store.get id := by
    by_contra hsame
    push Not at hsame
    exact hne (Node.appearance_congr hsame)
  obtain ⟨id, hid, hchanged⟩ := hmentioned
  obtain ⟨source, hsource, hreaches⟩ := reaches_of_get_ne_of_append
    (List.append_nil content.derived).symm hordered hbefore hafter hkept List.not_mem_nil hchanged
  refine mem_affectedBy_iff.2 ⟨source, hsource, n.reads, ?_, id, hid, hreaches⟩
  rw [ComponentTree.node?] at hnode
  rw [of, List.getElem?_map, hnode, Option.map_some]

end DependencyIndex

end Panel
