import Panel.Guarded.Stage
import Panel.Proofs.Document.Call
import Panel.Proofs.Guarded.Screen

/-!
# Stages never leave their slots and arrays

A stage that plays a scene has an answer for whatever is done on it, and plays after it what the
scene is then.
-/

namespace Panel

variable {content : Content} {store : IndexedStore} {component : ComponentId} {event : TouchEvent}

theorem DependencyIndex.of?_eq (content : Content) (hlocated : store.Located)
    (hstore : store.toStore = content.store) :
    of? content.tree.nodes content.derived store = some (.of content) := by
  have hreads : (fun d : DerivedVariable => do
      return (d.id, ← d.recipe.dependencies? store)) =
        fun d => (pure (d.id, d.recipe.dependencies content.store) : Option _) := by
    funext d
    rw [hlocated.dependencies?_eq, hstore]
    rfl
  rw [of?, hreads, List.mapM_pure]
  rfl

/-- The store after refreshing, where the index leads to what it led to before. -/
theorem IndexedStore.Located.exists_refreshed (h : store.Located)
    (derived : List DerivedVariable) :
    ∃ s : IndexedStore, store.refresh? derived = some s ∧ s.Located ∧
      s.toStore = store.toStore.refreshed derived :=
  ⟨_, h.refresh?_eq derived, h.of_ids (Store.ids_refreshed derived store.toStore), rfl⟩

/-- What has come of actions, with and without an index. -/
structure StageRun.Agrees (run : StageRun) (plain : ActionRun) : Prop where
  located : run.store.Located
  store : run.store.toStore = plain.store
  mutated : run.mutated = plain.mutated
  hostEvents : run.hostEvents = plain.hostEvents

namespace Stage

/-- A stage shows a scene, and its index leads to the slots of the scene's variables. -/
structure Plays (p : Stage) (s : Scene) : Prop where
  screen : p.screen = s.content.tree.screen s.layout
  located : p.store.Located
  store : p.store.toStore = s.content.store
  derived : p.derived = s.content.derived
  actions : p.actions = s.content.actions
  dispatcher : p.dispatcher = s.dispatcher
  proper : s.content.tree.root.Proper
  size : s.layout.size = s.content.tree.size

variable {p : Stage} {s : Scene}

theorem Plays.nodes (h : p.Plays s) : p.screen.nodes = s.content.tree.nodes :=
  congrArg Screen.nodes h.screen

theorem Plays.layout (h : p.Plays s) : p.screen.layout = s.layout.arrays :=
  congrArg Screen.layout h.screen

/-- Other variables under the same names. -/
theorem Plays.withStore {other : IndexedStore} {plain : Store} (h : p.Plays s)
    (hlocated : other.Located) (hstore : other.toStore = plain) :
    Plays { p with store := other } (s.withStore plain) :=
  { h with located := hlocated, store := hstore }

/-! ## Frames -/

/-- What nothing has happened to has its layout and dependencies made anew. -/
theorem exists_begin (content : Content) (hlocated : store.Located)
    (hstore : store.toStore = content.store) (hproper : content.tree.root.Proper) :
    ∃ p, begin? content.tree.nodes store content.derived content.actions = some p ∧
      p.Plays (.start content) := by
  obtain ⟨refreshed, hrefresh, hlocated', hrefreshed⟩ :=
    hlocated.exists_refreshed content.derived
  rw [hstore] at hrefreshed
  have hdependencies :
      DependencyIndex.of? content.tree.nodes content.derived refreshed = some (.of
        { content with store := content.store.refreshed content.derived }) :=
    DependencyIndex.of?_eq { content with store := _ } hlocated' hrefreshed
  have hscreen : (⟨content.tree.nodes, .fresh content.tree.nodes.length⟩ : Screen) =
      content.tree.screen (.fresh content.tree.size) := by
    rw [ComponentTree.screen, Layout.arrays_fresh, ComponentTree.length_nodes]
  rw [begin?, hrefresh]
  dsimp only [Option.bind_eq_bind, Option.bind_some]
  rw [hdependencies]
  exact ⟨_, rfl, hscreen, hlocated', hrefreshed, rfl, rfl, rfl, hproper, Layout.size_fresh _⟩

theorem Plays.exists_refresh (h : p.Plays s) : ∃ q, p.refresh? = some q ∧ q.Plays s.refresh := by
  obtain ⟨refreshed, hrefresh, hlocated, hrefreshed⟩ := h.located.exists_refreshed p.derived
  rw [h.store, h.derived] at hrefreshed
  rw [refresh?, hrefresh]
  exact ⟨_, rfl, h.withStore hlocated hrefreshed⟩

theorem Plays.exists_reindex (h : p.Plays s) : ∃ q, p.reindex? = some q ∧ q.Plays s.reindex := by
  rw [reindex?, h.nodes, h.derived, DependencyIndex.of?_eq _ h.located h.store, h.dispatcher]
  exact ⟨_, rfl, h.screen, h.located, h.store, rfl, h.actions, rfl, h.proper, h.size⟩

theorem Plays.exists_layOut (h : p.Plays s) (viewport : Size) (textMeasure : TextMeasure) :
    ∃ q, p.layOut? viewport textMeasure = some q ∧ q.Plays (s.layOut viewport textMeasure) := by
  have hsees : PassContext.Sees ⟨p.screen.nodes, p.store, textMeasure⟩ s.content.tree
      ⟨s.content.store, textMeasure⟩ := ⟨h.nodes, h.located, h.store, rfl⟩
  rw [layOut?, h.layout, hsees.pass?_eq h.proper]
  refine ⟨_, rfl, { h with screen := ?_, size := Layout.size_compute h.proper }⟩
  exact congrArg (Screen.mk · _) h.nodes

theorem Plays.clearDirty (h : p.Plays s) :
    p.clearDirty.Plays { s with layout := s.layout.clearDirty } := by
  refine { h with screen := ?_, size := (Layout.size_clearDirty _).trans h.size }
  rw [Stage.clearDirty, h.screen]
  exact congrArg (Screen.mk _) (Layout.clearDirty_arrays s.layout)

theorem Plays.invalidate (h : p.Plays s) (components : List Nat) :
    (p.invalidate components).Plays (s.invalidate components) := by
  refine { h with screen := ?_, size := (Layout.size_invalidate _ _ _).trans h.size }
  rw [Stage.invalidate, h.screen]
  exact Screen.invalidate_screen _ _ components

theorem Plays.takeInvalidations (h : p.Plays s) :
    p.takeInvalidations.1 = s.takeInvalidations.1 ∧
      p.takeInvalidations.2.Plays s.takeInvalidations.2 :=
  ⟨congrArg Dispatcher.pending h.dispatcher,
    { h with dispatcher := congrArg (fun d => { d with pending := [] }) h.dispatcher }⟩

theorem Plays.takeHostEvents (h : p.Plays s) :
    p.takeHostEvents.1 = s.takeHostEvents.1 ∧
      p.takeHostEvents.2.Plays s.takeHostEvents.2 :=
  ⟨congrArg Dispatcher.hostEvents h.dispatcher,
    { h with dispatcher := congrArg (fun d => { d with hostEvents := [] }) h.dispatcher }⟩

/-! ## Touches -/

/-- An action finds the slots that it reads and writes. -/
theorem Plays.exists_runAction (h : p.Plays s) {run : StageRun} {plain : ActionRun}
    (hrun : run.Agrees plain) (id : ActionId) :
    ∃ next, p.runAction? component event run id = some next ∧
      next.Agrees (s.content.runAction component event plain id) := by
  rw [runAction?, Content.runAction, Content.action?, h.actions]
  cases s.content.actions.find? fun a => a.id = id with
  | none => exact ⟨run, rfl, hrun⟩
  | some action =>
      dsimp only
      rw [hrun.located.run_perform?, hrun.store]
      cases happly : action.effect.apply plain.store with
      | error e => exact ⟨run, rfl, hrun⟩
      | ok result =>
          obtain ⟨outcome, written⟩ := result
          rcases Effect.cases_of_apply happly with
            ⟨request, rfl, rfl⟩ | ⟨target, value, changed, rfl, -, hset⟩
          · refine ⟨_, rfl, { hrun with hostEvents := ?_ }⟩
            exact congrArg (· ++ _) hrun.hostEvents
          · have hlocated := hrun.located.withSlots_of_set (hrun.store ▸ hset)
            obtain ⟨refreshed, hrefresh, hlocated', hrefreshed⟩ :=
              hlocated.exists_refreshed p.derived
            rw [h.derived] at hrefreshed
            dsimp only [Except.map, Option.bind_eq_bind, Option.bind_some]
            rw [hrefresh]
            refine ⟨_, rfl, hlocated', hrefreshed, ?_, hrun.hostEvents⟩
            exact congrArg (VariableId.addTo · target) hrun.mutated

theorem Plays.exists_foldlM_runAction (h : p.Plays s) (ids : List ActionId) {run : StageRun}
    {plain : ActionRun} (hrun : run.Agrees plain) :
    ∃ last, ids.foldlM (p.runAction? component event) run = some last ∧
      last.Agrees (ids.foldl (s.content.runAction component event) plain) := by
  induction ids generalizing run plain with
  | nil => exact ⟨run, rfl, hrun⟩
  | cons id ids ih =>
      obtain ⟨next, hnext, hagrees⟩ := h.exists_runAction hrun id
      rw [List.foldlM_cons, hnext]
      exact ih hagrees

theorem Plays.exists_runActions (h : p.Plays s) (ids : List ActionId) :
    ∃ run, p.runActions? component event ids = some run ∧
      run.Agrees (s.content.runActions component event ids) := by
  obtain ⟨refreshed, hrefresh, hlocated, hrefreshed⟩ := h.located.exists_refreshed p.derived
  rw [h.store, h.derived] at hrefreshed
  rw [runActions?, hrefresh]
  exact h.exists_foldlM_runAction ids ⟨hlocated, hrefreshed, rfl, rfl⟩

theorem Plays.exists_deliver (h : p.Plays s) (component : ComponentId) (event : TouchEvent)
    (actions : List ActionId) :
    ∃ q, p.deliver? component event actions = some q ∧
      q.Plays (s.deliver component event actions) := by
  obtain ⟨run, hrun, hagrees⟩ := h.exists_runActions actions
  rw [deliver?, hrun]
  refine ⟨_, rfl, ?_⟩
  rw [h.dispatcher, hagrees.mutated, hagrees.hostEvents]
  refine Plays.invalidate ?_ _
  exact ⟨h.screen, hagrees.located, hagrees.store, h.derived, h.actions, rfl, h.proper, h.size⟩

theorem Plays.exists_dispatch (h : p.Plays s) (index : Nat) (event : TouchEvent) :
    ∃ q, p.dispatch? index event = some ((s.dispatch? index event).isSome, q) ∧
      q.Plays ((s.dispatch? index event).getD s) := by
  rw [dispatch?, h.screen, Scene.dispatch?, ComponentTree.node?]
  have hnodes : (s.content.tree.screen s.layout).nodes = s.content.tree.nodes := rfl
  rw [hnodes, Screen.isDrawn_screen]
  cases hnode : s.content.tree.nodes[index]? with
  | none => exact ⟨p, rfl, h⟩
  | some n =>
      have hactions : s.content.tree.actionsFor index event.trigger =
          Modifiers.actionsFor n.modifiers event.trigger := by
        rw [ComponentTree.actionsFor, ComponentTree.node?, hnode]
      dsimp only
      rw [Scene.accepts, hactions]
      split
      · obtain ⟨q, hq, hplays⟩ := h.exists_deliver n.id event
          (Modifiers.actionsFor n.modifiers event.trigger)
        rw [hq]
        exact ⟨q, rfl, hplays⟩
      · exact ⟨p, rfl, h⟩

/-! ## Variables -/

theorem Plays.exists_written (h : p.Plays s) {other : IndexedStore} {plain : Store}
    (hlocated : other.Located) (hstore : other.toStore = plain) (id : VariableId) (kind : Kind) :
    ∃ q, written? { p with store := other } id kind = some q ∧
      q.Plays (s.changed id kind plain) := by
  have hplays := h.withStore hlocated hstore
  obtain ⟨q, hq, hplays'⟩ : ∃ q,
      (if kind = .list then reindex? { p with store := other }
        else some { p with store := other }) = some q ∧
      q.Plays (if kind = .list then (s.withStore plain).reindex else s.withStore plain) := by
    split
    · exact hplays.exists_reindex
    · exact ⟨_, rfl, hplays⟩
  obtain ⟨r, hr, hplays''⟩ := hplays'.exists_refresh
  rw [written?, hq]
  dsimp only [Option.bind_eq_bind, Option.bind_some]
  rw [hr]
  refine ⟨_, rfl, ?_⟩
  rw [hplays''.dispatcher]
  exact hplays''.invalidate _

/-- A write by the host finds the slot, and all that depends on it. -/
theorem Plays.exists_setNamed {d : Document} (h : p.Plays d.scene) (name : String)
    (value : Value) :
    (∃ e, d.setNamed name value = .error e ∧ (p.setNamed? name value).run = some (.error e)) ∨
      ∃ changed scene q, d.setNamed name value = .ok (changed, { d with scene }) ∧
        (p.setNamed? name value).run = some (.ok (changed, q)) ∧ q.Plays scene := by
  rw [setNamed?, h.store]
  cases hname : d.scene.content.store.lookupName name with
  | none =>
      refine .inl ⟨.unknownName name, ?_, rfl⟩
      rw [Document.setNamed, hname]
      rfl
  | some id =>
      have hwrite := h.located.run_write? id value
      rw [h.store] at hwrite
      dsimp only
      rw [ExceptT.run_bind, hwrite]
      cases hset : d.scene.content.store.set id value with
      | error e =>
          refine .inl ⟨e, ?_, rfl⟩
          rw [Document.setNamed, hname]
          exact congrArg (· >>= _) hset
      | ok result =>
          obtain ⟨changed, plain⟩ := result
          have hplain := Document.setNamed_eq_ok.2 ⟨id, plain, hname, hset, rfl⟩
          have hlocated := h.located.withSlots_of_set (h.store ▸ hset)
          cases changed with
          | false => exact .inr ⟨false, _, _, hplain, rfl, h.withStore hlocated rfl⟩
          | true =>
              obtain ⟨q, hq, hplays⟩ := h.exists_written hlocated rfl id value.kind
              exact .inr ⟨true, _, q, hplain, Checked.run_bind_lift hq, hplays⟩

end Stage

end Panel
