import Panel.Document
import Panel.Proofs.Content.Declared
import Panel.Proofs.Layout.Extent
import Panel.Proofs.Layout.Marks
import Panel.Proofs.Touch.Run

/-!
# Calls of the host

The host plays a document by calling it, in any order and any number of times.  Header, profile,
tree, actions and recipes stay as they were loaded, and of the variables all but the values.  The
dependencies that dispatch goes by are those of the variables as they are.
-/

namespace Panel

/-- A call that may change a document, or that draws it. -/
inductive HostCall where
  | update (viewport : Size) (textMeasure : TextMeasure)
  | paint
  | touch (component : ComponentId) (event : TouchEvent)
  | setNamed (name : String) (value : Value)
  | takeHostEvents
  | restart

namespace Document

/-- The document after a call. -/
def perform (d : Document) : HostCall → Document
  | .update viewport textMeasure => (d.update viewport textMeasure).2
  | .paint => d
  | .touch component event => (d.touch component event).2
  | .setNamed name value =>
    match d.setNamed name value with
    | .ok (_, written) => written
    | .error _ => d
  | .takeHostEvents => d.takeHostEvents.2
  | .restart => d.restart

/-- The document after some calls. -/
def run (d : Document) (calls : List HostCall) : Document := calls.foldl perform d

theorem run_cons (d : Document) (call : HostCall) (calls : List HostCall) :
    d.run (call :: calls) = (d.perform call).run calls := rfl

theorem run_concat (d : Document) (calls : List HostCall) (call : HostCall) :
    d.run (calls ++ [call]) = (d.run calls).perform call := by
  rw [run, List.foldl_concat, run]

end Document

/-! ## Writes by the host -/

/-- The scene after a write that is a change. -/
def Scene.changed (s : Scene) (id : VariableId) (kind : Kind) (store : Store) : Scene :=
  let s := s.withStore store
  let s := (if kind = .list then s.reindex else s).refresh
  s.invalidate (s.dispatcher.dependencies.affected id)

theorem Scene.content_changed (s : Scene) (id : VariableId) (kind : Kind) (store : Store) :
    (s.changed id kind store).content =
      { s.content with store := store.refreshed s.content.derived } := by
  unfold changed
  split <;> rfl

theorem Scene.layout_changed (s : Scene) (id : VariableId) (kind : Kind) (store : Store) :
    ∃ components, (s.changed id kind store).layout =
      s.layout.invalidate s.content.tree components := by
  unfold changed
  split <;> exact ⟨_, rfl⟩

theorem Scene.dependencies_changed (s : Scene) (id : VariableId) (kind : Kind) (store : Store) :
    (s.changed id kind store).dispatcher.dependencies =
      if kind = .list then .of { s.content with store } else s.dispatcher.dependencies := by
  unfold changed
  split <;> rfl

namespace Document

variable {d e loaded : Document} {name : String} {value : Value} {changed : Bool}

theorem setNamed_eq_ok :
    d.setNamed name value = .ok (changed, e) ↔ ∃ id store,
      d.scene.content.store.lookupName name = some id ∧
      d.scene.content.store.set id value = .ok (changed, store) ∧
      e = { d with scene :=
        if changed then d.scene.changed id value.kind store else d.scene.withStore store } := by
  unfold setNamed
  cases hname : d.scene.content.store.lookupName name with
  | none => exact iff_of_false (by simp [throw, throwThe, MonadExceptOf.throw]) (by simp)
  | some id =>
      cases hset : d.scene.content.store.set id value with
      | error e => exact iff_of_false (by simp [hset, bind, Except.bind]) (by simp [hset])
      | ok result =>
          obtain ⟨written, store⟩ := result
          cases written <;> cases changed <;>
            simp [hset, bind, Except.bind, pure, Except.pure, Scene.changed, eq_comm]

/-! ## Touches -/

/-- A touch is not delivered and does nothing, or it is delivered to a node that is drawn and binds
actions to it. -/
theorem touch_cases (d : Document) (component : ComponentId) (event : TouchEvent) :
    d.touch component event = (false, d) ∨ ∃ index n,
      d.scene.content.tree.indexOf? component = some index ∧
      d.scene.content.tree.node? index = some n ∧
      d.scene.accepts index event.trigger = true ∧
      d.touch component event = (true, { d with
        scene := d.scene.deliver n.id event
          (Modifiers.actionsFor n.modifiers event.trigger) }) := by
  unfold touch
  cases hindex : d.scene.content.tree.indexOf? component with
  | none => exact .inl rfl
  | some index =>
      dsimp only
      rw [Scene.dispatch?]
      cases hnode : d.scene.content.tree.node? index with
      | none => exact .inl rfl
      | some n =>
          cases haccepts : d.scene.accepts index event.trigger with
          | false => exact .inl rfl
          | true => exact .inr ⟨index, n, rfl, hnode, haccepts, rfl⟩

theorem exists_deliver_of_touch {component : ComponentId} {event : TouchEvent}
    (h : d.touch component event = (true, e)) : ∃ index n,
      d.scene.content.tree.indexOf? component = some index ∧
      d.scene.content.tree.node? index = some n ∧
      e = { d with
        scene := d.scene.deliver n.id event
          (Modifiers.actionsFor n.modifiers event.trigger) } := by
  rcases d.touch_cases component event with htouch | ⟨index, n, hindex, hnode, -, htouch⟩
  · rw [h] at htouch
    exact absurd (congrArg Prod.fst htouch) Bool.true_eq_false.mp
  · rw [h] at htouch
    exact ⟨index, n, hindex, hnode, congrArg Prod.snd htouch⟩

end Document

/-! ## What every call keeps -/

theorem DependencyIndex.of_congr (content : Content) {store : Store}
    (h : ∀ id, store.getList id = content.store.getList id) :
    of { content with store } = of content := by
  simp only [of, Recipe.dependencies_congr h]

/-- A list that is written with what agrees with it is as it was. -/
theorem Store.getList_of_set_unchanged {s t : Store} {target : VariableId} {value : Value}
    (hnodup : s.ids.Nodup) (hset : s.set target value = .ok (false, t)) (id : VariableId) :
    t.getList id = s.getList id := by
  by_cases hlist : value.kind = .list
  · obtain ⟨old, hslot, hkind, hchanged, rfl⟩ := set_eq_ok.1 hset
    have hagrees : old.agrees value = true := by simpa using hchanged
    have hsame : old = value := by
      cases value with
      | list items =>
          cases old with
          | list olds => simpa [Value.agrees] using hagrees
          | _ => contradiction
      | _ => contradiction
    rw [write_eq_self hnodup (hsame ▸ get_of_slot? hslot)]
  · exact getList_of_set hset hlist id

namespace Document

variable {d e loaded : Document}

/-- A document as it is after loading. -/
structure Pristine (d : Document) : Prop where
  scene : ∃ content : Content, content.store.Declares content.derived ∧
    content.tree.root.Proper ∧ d.scene = .start content
  initial : d.initial = d.scene.content.store

theorem pristine_of_load {bytes : List UInt8} {config : Config} (h : load bytes config = .ok d) :
    d.Pristine := by
  obtain ⟨decoded, -, h⟩ := Result.bind_eq_ok.1 h
  obtain ⟨content, hcontent, ⟨⟩⟩ := Result.bind_eq_ok.1 h
  exact ⟨⟨content, Content.declares_of_ofOperations hcontent,
    (Content.root_of_ofOperations hcontent).2, rfl⟩, rfl⟩

theorem Pristine.declares (h : d.Pristine) :
    d.scene.content.store.Declares d.scene.content.derived := by
  obtain ⟨content, hdeclares, -, hscene⟩ := h.scene
  rw [hscene]
  exact hdeclares.refreshed

theorem Pristine.proper (h : d.Pristine) : d.scene.content.tree.root.Proper := by
  obtain ⟨content, -, hproper, hscene⟩ := h.scene
  rwa [hscene]

theorem Pristine.scene_eq (h : d.Pristine) :
    d.scene = ⟨d.scene.content, .fresh d.scene.content.tree.size, .new (.of d.scene.content)⟩ := by
  obtain ⟨content, -, -, hscene⟩ := h.scene
  rw [hscene]
  rfl

/-- What is as it was loaded after any calls, and what agrees with each other. -/
structure Follows (loaded d : Document) : Prop where
  header : d.header = loaded.header
  profile : d.profile = loaded.profile
  initial : d.initial = loaded.initial
  content : d.scene.content = { loaded.scene.content with store := d.scene.content.store }
  cleared : d.scene.content.store.cleared = loaded.scene.content.store.cleared
  dependencies : d.scene.dispatcher.dependencies = .of d.scene.content
  size : d.scene.layout.size = d.scene.content.tree.size

theorem Pristine.follows (h : d.Pristine) : Follows d d where
  header := rfl
  profile := rfl
  initial := rfl
  content := rfl
  cleared := rfl
  dependencies := by
    rw [h.scene_eq]
    rfl
  size := by
    rw [h.scene_eq]
    exact Layout.size_fresh _

theorem Follows.derived_eq (h : Follows loaded d) :
    d.scene.content.derived = loaded.scene.content.derived := by
  rw [h.content]

theorem Follows.tree_eq (h : Follows loaded d) :
    d.scene.content.tree = loaded.scene.content.tree := by
  rw [h.content]

theorem Follows.declares (h : Follows loaded d) (hloaded : loaded.Pristine) :
    d.scene.content.store.Declares d.scene.content.derived := by
  rw [h.derived_eq]
  exact hloaded.declares.of_cleared h.cleared.symm

theorem Follows.proper (h : Follows loaded d) (hloaded : loaded.Pristine) :
    d.scene.content.tree.root.Proper := by
  rw [h.tree_eq]
  exact hloaded.proper

/-- A call that leaves all but the scene alone. -/
theorem Follows.withScene {scene : Scene} {viewport : Size} (h : Follows loaded d)
    (hcontent : scene.content = { d.scene.content with store := scene.content.store })
    (hcleared : scene.content.store.cleared = d.scene.content.store.cleared)
    (hdependencies : scene.dispatcher.dependencies = .of scene.content)
    (hsize : scene.layout.size = d.scene.content.tree.size) :
    Follows loaded { d with scene, viewport } where
  header := h.header
  profile := h.profile
  initial := h.initial
  content := by
    show scene.content = _
    rw [hcontent, h.content]
  cleared := hcleared.trans h.cleared
  dependencies := hdependencies
  size := by
    show scene.layout.size = scene.content.tree.size
    rw [hsize, hcontent]

theorem Follows.update (h : Follows loaded d) (hloaded : loaded.Pristine) (viewport : Size)
    (textMeasure : TextMeasure) : Follows loaded (d.update viewport textMeasure).2 := by
  have hdeclares := h.declares hloaded
  apply h.withScene
  · rfl
  · exact Store.cleared_refreshed hdeclares
  · exact h.dependencies.trans
      (DependencyIndex.of_congr _ (Store.getList_refreshed hdeclares)).symm
  · exact (Layout.size_clearDirty _).trans (Layout.size_compute (h.proper hloaded))

theorem Follows.touch (h : Follows loaded d) (hloaded : loaded.Pristine) (component : ComponentId)
    (event : TouchEvent) : Follows loaded (d.touch component event).2 := by
  have hdeclares := h.declares hloaded
  rcases d.touch_cases component event with htouch | ⟨index, n, -, -, -, htouch⟩
  · rwa [htouch]
  · rw [htouch]
    apply h.withScene
    · rfl
    · exact Content.cleared_runActions hdeclares _
    · exact h.dependencies.trans
        (DependencyIndex.of_congr _ (Content.getList_runActions hdeclares _)).symm
    · exact (Layout.size_invalidate _ _ _).trans h.size

theorem Follows.setNamed (h : Follows loaded d) (hloaded : loaded.Pristine) {name : String}
    {value : Value} {changed : Bool} (hset : d.setNamed name value = .ok (changed, e)) :
    Follows loaded e := by
  have hdeclares := h.declares hloaded
  obtain ⟨id, store, -, hwrite, rfl⟩ := setNamed_eq_ok.1 hset
  have hcleared := Store.cleared_of_set hdeclares hwrite
  have hstore : store.Declares d.scene.content.derived := hdeclares.of_cleared hcleared.symm
  cases changed with
  | false =>
      apply h.withScene
      · rfl
      · exact hcleared
      · have hlists := Store.getList_of_set_unchanged hdeclares.ids hwrite
        exact h.dependencies.trans (DependencyIndex.of_congr _ hlists).symm
      · exact h.size
  | true =>
      have hcontent := d.scene.content_changed id value.kind store
      obtain ⟨components, hlayout⟩ := d.scene.layout_changed id value.kind store
      apply h.withScene
      · rw [if_pos rfl, hcontent]
      · rw [if_pos rfl, hcontent]
        exact (Store.cleared_refreshed hstore).trans hcleared
      · rw [if_pos rfl, hcontent, Scene.dependencies_changed]
        have hrefreshed : DependencyIndex.of
            { d.scene.content with store := store.refreshed d.scene.content.derived } =
            .of { d.scene.content with store } :=
          DependencyIndex.of_congr { d.scene.content with store } (Store.getList_refreshed hstore)
        rw [hrefreshed]
        -- a list that changed has been looked at again; anything else is in no list
        split
        · rfl
        · next hlist =>
            rw [h.dependencies]
            exact (DependencyIndex.of_congr _ (Store.getList_of_set hwrite hlist)).symm
      · rw [if_pos rfl, hlayout]
        exact (Layout.size_invalidate _ _ _).trans h.size

theorem Follows.restart (h : Follows loaded d) (hloaded : loaded.Pristine) :
    Follows loaded d.restart := by
  have hdeclares : d.initial.Declares d.scene.content.derived := by
    rw [h.derived_eq, h.initial, hloaded.initial]
    exact hloaded.declares
  apply h.withScene
  · rfl
  · rw [h.cleared, ← hloaded.initial, ← h.initial]
    exact Store.cleared_refreshed hdeclares
  · rfl
  · exact Layout.size_fresh _

theorem Follows.perform (h : Follows loaded d) (hloaded : loaded.Pristine) (call : HostCall) :
    Follows loaded (d.perform call) := by
  cases call with
  | update viewport textMeasure => exact h.update hloaded viewport textMeasure
  | paint => exact h
  | touch component event => exact h.touch hloaded component event
  | setNamed name value =>
      rw [Document.perform]
      cases hset : d.setNamed name value with
      | error e => exact h
      | ok result => exact h.setNamed hloaded hset
  | takeHostEvents => exact h.withScene rfl rfl h.dependencies h.size
  | restart => exact h.restart hloaded

/-- Every call keeps it, so calls in any order do. -/
theorem Follows.run (h : Follows loaded d) (hloaded : loaded.Pristine) (calls : List HostCall) :
    Follows loaded (d.run calls) := by
  induction calls using List.reverseRecOn with
  | nil => exact h
  | append_singleton calls call ih =>
      rw [run_concat]
      exact ih.perform hloaded call

/-- Dispatch never goes by dependencies of variables as they were.  In whatever order a document is
called, its index answers as an index made of the variables as they are. -/
theorem affected_run {bytes : List UInt8} {config : Config} (h : load bytes config = .ok loaded)
    (calls : List HostCall) (id : VariableId) :
    (loaded.run calls).scene.dispatcher.dependencies.affected id =
      (DependencyIndex.of (loaded.run calls).scene.content).affected id := by
  have hloaded := pristine_of_load h
  have hrun : Follows loaded (loaded.run calls) := hloaded.follows.run hloaded calls
  rw [hrun.dependencies]

/-- A text that is looked up in a list comes to depend on the element that the host puts there. -/
theorem affected_run_element :
    let bytes : List UInt8 := [0, 3, 0, 3, 0, 0, 0, 95, 3, 0, 0, 0, 1, 0, 0, 0, 1, 97,
      3, 0, 0, 0, 2, 0, 0, 0, 1, 98, 5, 0, 0, 0, 3, 0, 1, 0, 0, 0, 1,
      6, 0, 0, 0, 3, 0, 0, 0, 1, 108, 1, 0, 0, 0, 4, 0, 0, 0, 0,
      18, 0, 0, 0, 5, 0, 0, 0, 3, 0, 0, 0, 4, 33, 0, 0, 0, 1, 0, 0, 0, 0, 0, 0,
      35, 0, 0, 0, 2, 0, 0, 0, 5, 0, 0, 0, 4, 63, 128, 0, 0, 1, 144, 0, 47]
    ∃ loaded, load bytes {} = .ok loaded ∧
      loaded.scene.dispatcher.dependencies.affected ⟨2⟩ = [] ∧
      (loaded.run [.setNamed "l" (.list [⟨2⟩])]).scene.dispatcher.dependencies.affected ⟨2⟩ =
        [1] := by
  intro bytes
  have hfacts : (load bytes {}).toOption.any (fun loaded => decide (
      (DependencyIndex.of loaded.scene.content).affected ⟨2⟩ = [] ∧
      (DependencyIndex.of (loaded.run [.setNamed "l" (.list [⟨2⟩])]).scene.content).affected ⟨2⟩ =
        [1])) = true := by
    decide +kernel
  obtain ⟨loaded, hload, hfacts⟩ := Result.exists_ok_of_any hfacts
  obtain ⟨hbefore, hafter⟩ := of_decide_eq_true hfacts
  refine ⟨loaded, hload, ?_, ?_⟩
  · exact (affected_run hload [] ⟨2⟩).trans hbefore
  · exact (affected_run hload _ ⟨2⟩).trans hafter

end Document

end Panel
