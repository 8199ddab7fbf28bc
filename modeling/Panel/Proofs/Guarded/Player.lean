import Panel.Guarded.Player
import Panel.Proofs.Component.Consistent
import Panel.Proofs.Guarded.Arena
import Panel.Proofs.Guarded.Decode
import Panel.Proofs.Guarded.Stage

/-!
# Players always have an answer

A player that represents a document replies to every call, gives back what the document gives back,
and represents afterwards what the document is then.  So a player that has been loaded never leaves
a buffer, a slot or an array, whatever its host asks.
-/

namespace Panel

namespace ComponentTree

variable {t : ComponentTree} {n : Node} {i : Nat}

theorem lt_length_of_parent (hn : n ∈ t.nodes) (hparent : n.parent = some i) :
    i < t.nodes.length := by
  obtain ⟨j, hnode⟩ := List.mem_iff_getElem?.1 hn
  obtain ⟨above, children, hat, habove, -⟩ := exists_at_of_node? hnode
  obtain ⟨outer, id, kind, modifiers, siblings, houter, -⟩ := hat.exists_parent (habove ▸ hparent)
  exact t.length_nodes ▸ houter.lt_size

theorem lt_length_of_mem_children (hn : n ∈ t.nodes) (hi : i ∈ n.children) :
    i < t.nodes.length := by
  obtain ⟨j, hnode⟩ := List.mem_iff_getElem?.1 hn
  obtain ⟨above, children, hat, -, hchildren⟩ := exists_at_of_node? hnode
  rw [hchildren] at hi
  obtain ⟨front, c, back, rfl, rfl⟩ := Component.mem_numbering.1 hi
  exact t.length_nodes ▸ hat.child.lt_size

end ComponentTree

theorem IndexedStore.Located.lt_length {s : IndexedStore} {id : VariableId} {i : Nat}
    (h : s.Located) (hindex : s.index.lookup id = some i) : i < s.slots.length := by
  obtain ⟨hlt, -⟩ := List.getElem?_eq_some_iff.1 ((h.index id i).1 hindex)
  rwa [Store.ids, List.length_map] at hlt

namespace Player

/-- A player keeps what a document is, with its variables in slots that the index leads to. -/
structure Represents (p : Player) (d : Document) : Prop where
  header : p.header = d.header
  profile : p.profile = d.profile
  located : p.initial.Located
  initial : p.initial.toStore = d.initial
  stage : p.stage.Plays d.scene
  viewport : p.viewport = d.viewport

variable {p : Player} {d : Document}

/-- Whatever a buffer holds is found in it, and assembled without leaving the arena. -/
theorem load?_cases (bytes : List UInt8) (config : Config) :
    (∃ e, Document.load bytes config = .error e ∧ (load? bytes config).run = some (.error e)) ∨
      ∃ d p, Document.load bytes config = .ok d ∧ (load? bytes config).run = some (.ok p) ∧
        p.Represents d := by
  rw [load?, ExceptT.run_bind, Wire.run_decodeDocument?, Document.load]
  cases Wire.decodeDocument bytes config with
  | error e => exact .inl ⟨e, rfl, rfl⟩
  | ok decoded =>
      rcases Arena.ofOperations?_cases decoded.operations config.maxDepth with
        ⟨e, hplain, hrun⟩ | ⟨content, arena, hplain, hrun, h⟩
      · refine .inl ⟨e, Result.bind_eq_error.2 (.inr ⟨decoded, rfl,
          Result.bind_eq_error.2 (.inl hplain)⟩), ?_⟩
        show (Arena.ofOperations? _ _ >>= _ : Checked DecodeError Player).run = _
        rw [ExceptT.run_bind, hrun]
        rfl
      · obtain ⟨-, hproper⟩ := Content.root_of_ofOperations hplain
        obtain ⟨stage, hbegin, hplays⟩ := Stage.exists_begin content h.located h.store hproper
        rw [← h.nodes, ← h.derived, ← h.actions] at hbegin
        refine .inr ⟨_, ⟨decoded.header, decoded.profile, stage.store, stage, config.viewport⟩,
          Result.bind_eq_ok.2 ⟨decoded, rfl, Result.bind_eq_ok.2 ⟨content, hplain, rfl⟩⟩, ?_,
          rfl, rfl, hplays.located, hplays.store, hplays, rfl⟩
        show (Arena.ofOperations? _ _ >>= _ : Checked DecodeError Player).run = _
        rw [ExceptT.run_bind, hrun]
        exact Checked.run_bind_lift hbegin

/-! ## Calls -/

theorem Represents.exists_update (h : p.Represents d) (viewport : Size)
    (textMeasure : TextMeasure) :
    ∃ q, p.update? viewport textMeasure = some ((d.update viewport textMeasure).1, q) ∧
      q.Represents (d.update viewport textMeasure).2 := by
  obtain ⟨refreshed, hrefresh, hplays⟩ := h.stage.exists_refresh
  obtain ⟨laidOut, hlayOut, hplays⟩ := hplays.exists_layOut viewport textMeasure
  obtain ⟨hrecords, hplays⟩ := hplays.clearDirty.takeInvalidations
  rw [update?, hrefresh]
  dsimp only [Option.bind_eq_bind, Option.bind_some]
  rw [hlayOut]
  refine ⟨_, congrArg (fun records => some (records, _)) hrecords, ?_⟩
  exact { h with stage := hplays, viewport := rfl }

theorem Represents.paint?_eq (h : p.Represents d) :
    p.paint? = some (d.paint, d.scene.content.tree.paintedCount d.scene.layout) := by
  rw [paint?, h.stage.screen, Screen.paint?_screen h.stage.located, h.stage.store]
  rfl

theorem Represents.indexOf?_eq (h : p.Represents d) (component : ComponentId) :
    p.stage.screen.indexOf? component = d.scene.content.tree.indexOf? component := by
  rw [Screen.indexOf?, h.stage.nodes, ComponentTree.indexOf?]

theorem Represents.exists_touch (h : p.Represents d) (component : ComponentId)
    (event : TouchEvent) :
    ∃ q, p.touch? component event = some ((d.touch component event).1, q) ∧
      q.Represents (d.touch component event).2 := by
  rw [touch?, h.indexOf?_eq, Document.touch]
  cases d.scene.content.tree.indexOf? component with
  | none => exact ⟨p, rfl, h⟩
  | some index =>
      obtain ⟨stage, hdispatch, hplays⟩ := h.stage.exists_dispatch index event
      dsimp only
      rw [hdispatch]
      refine ⟨{ p with stage }, ?_, ?_⟩
      · cases d.scene.dispatch? index event <;> rfl
      · cases hscene : d.scene.dispatch? index event with
        | none =>
            rw [hscene] at hplays
            exact { h with stage := hplays }
        | some scene =>
            rw [hscene] at hplays
            exact { h with stage := hplays }

theorem Represents.idAt_eq (h : p.Represents d) : p.idAt = d.idAt? := by
  funext index
  rw [idAt, h.stage.nodes, Document.idAt?, ComponentTree.node?]

theorem Represents.componentAt_eq (h : p.Represents d) (position : Point) :
    p.componentAt position = d.componentAt? position := by
  rw [componentAt, h.stage.screen, Screen.hit?_screen, h.idAt_eq]
  rfl

theorem Represents.touchTarget_eq (h : p.Represents d) (position : Point)
    (trigger : TouchTrigger) :
    p.touchTarget position trigger = d.touchTarget? position trigger := by
  simp only [touchTarget, h.stage.screen, Screen.hit?_screen, Screen.handler?_screen, h.idAt_eq]
  rfl

theorem Represents.state_eq {α : Type} (h : p.Represents d) {look : LayoutArrays → Nat → α}
    {plain : Layout → Nat → α} (hlook : look d.scene.layout.arrays = plain d.scene.layout)
    (component : ComponentId) :
    p.state look component =
      (d.scene.content.tree.indexOf? component).map (plain d.scene.layout) := by
  rw [state, h.indexOf?_eq, h.stage.layout, hlook]

theorem Represents.exists_restart (h : p.Represents d) :
    ∃ q, p.restart? = some q ∧ q.Represents d.restart := by
  obtain ⟨stage, hbegin, hplays⟩ := Stage.exists_begin
    { d.scene.content with store := d.initial } h.located h.initial h.stage.proper
  rw [restart?, h.stage.nodes, h.stage.derived, h.stage.actions, hbegin]
  exact ⟨_, rfl, { h with stage := hplays }⟩

/-- Every call has an answer. -/
theorem Represents.exists_answer (h : p.Represents d) (call : PlayerCall) :
    ∃ q, p.answer? call = some ((d.answer call).1, q) ∧ q.Represents (d.answer call).2 := by
  cases call with
  | update viewport textMeasure =>
      obtain ⟨q, hupdate, hq⟩ := h.exists_update viewport textMeasure
      rw [answer?, hupdate]
      exact ⟨q, rfl, hq⟩
  | paint =>
      rw [answer?, h.paint?_eq]
      exact ⟨p, rfl, h⟩
  | renderFrame viewport textMeasure =>
      obtain ⟨q, hupdate, hq⟩ := h.exists_update viewport textMeasure
      rw [answer?, hupdate]
      dsimp only [Option.bind_eq_bind, Option.bind_some]
      rw [hq.paint?_eq]
      exact ⟨q, rfl, hq⟩
  | touchDown component position =>
      obtain ⟨q, htouch, hq⟩ := h.exists_touch component (.down position)
      rw [answer?, htouch]
      exact ⟨q, rfl, hq⟩
  | touchUp component =>
      obtain ⟨q, htouch, hq⟩ := h.exists_touch component .up
      rw [answer?, htouch]
      exact ⟨q, rfl, hq⟩
  | componentAt position =>
      rw [answer?, h.componentAt_eq]
      exact ⟨p, rfl, h⟩
  | touchTarget position trigger =>
      rw [answer?, h.touchTarget_eq]
      exact ⟨p, rfl, h⟩
  | pending =>
      rw [answer?, h.stage.dispatcher]
      exact ⟨p, rfl, h⟩
  | takeHostEvents =>
      obtain ⟨hevents, hplays⟩ := h.stage.takeHostEvents
      refine ⟨{ p with stage := p.stage.takeHostEvents.2 }, ?_, { h with stage := hplays }⟩
      exact congrArg (fun events => some (PlayerReply.events events, _)) hevents
  | setNamed name value =>
      rw [answer?, Document.answer]
      rcases h.stage.exists_setNamed name value with
        ⟨e, hplain, hset⟩ | ⟨changed, scene, stage, hplain, hset, hplays⟩
      · rw [hset, hplain]
        exact ⟨p, rfl, h⟩
      · rw [hset, hplain]
        exact ⟨{ p with stage }, rfl, { h with stage := hplays }⟩
  | get id =>
      rw [answer?, h.stage.located.run_read?, h.stage.store, Document.answer, Document.get]
      cases d.scene.content.store.get id <;> exact ⟨p, rfl, h⟩
  | isDirty =>
      rw [answer?, h.stage.layout, Layout.anyDirty_arrays]
      exact ⟨p, rfl, h⟩
  | phase component =>
      rw [answer?, h.state_eq (funext d.scene.layout.phaseAt_arrays)]
      exact ⟨p, rfl, h⟩
  | visibility component =>
      rw [answer?, h.state_eq (funext d.scene.layout.visibilityAt_arrays)]
      exact ⟨p, rfl, h⟩
  | bounds component =>
      rw [answer?, h.state_eq d.scene.layout.boundsAt_arrays]
      exact ⟨p, rfl, h⟩
  | restart =>
      obtain ⟨q, hrestart, hq⟩ := h.exists_restart
      rw [answer?, hrestart]
      exact ⟨q, rfl, hq⟩

/-- Calls one after the other have answers, those that the document gives. -/
theorem Represents.exists_answers (h : p.Represents d) (calls : List PlayerCall) :
    ∃ q, p.answers? calls = some ((d.answers calls).1, q) ∧ q.Represents (d.answers calls).2 := by
  induction calls generalizing p d with
  | nil => exact ⟨p, rfl, h⟩
  | cons call calls ih =>
      obtain ⟨q, hcall, hq⟩ := h.exists_answer call
      obtain ⟨r, hcalls, hr⟩ := ih hq
      rw [answers?, hcall]
      dsimp only [Option.bind_eq_bind, Option.bind_some]
      rw [hcalls]
      exact ⟨r, rfl, hr⟩

/-! ## Bounds -/

theorem Represents.inBounds (h : p.Represents d) : p.InBounds where
  slots _ _ hindex := h.stage.located.lt_length hindex
  initial _ _ hindex := h.located.lt_length hindex
  parents n hn i hparent := by
    rw [h.stage.nodes] at hn ⊢
    exact ComponentTree.lt_length_of_parent hn hparent
  children n hn i hi := by
    rw [h.stage.nodes] at hn ⊢
    exact ComponentTree.lt_length_of_mem_children hn hi
  arrays := by
    rw [h.stage.layout, h.stage.nodes, Layout.lengths_arrays, h.stage.size,
      ComponentTree.length_nodes]

/-- No access ever fails.  The cursor that reads operations stays within their buffer, from whatever
base, unless the program stops at offsets that are too large and there are some.  A buffer is
refused as it is without the checks, or it is loaded, and then whatever is asked of it, in any
order, is answered as it is without them, while every number that is kept stays within what it is a
number of. -/
theorem answers_total (bytes : List UInt8) (config : Config) (calls : List PlayerCall) :
    (∀ (base : UInt64) (overflow : Overflow) (profile : Profile) (limit maximum : Nat),
      (overflow = .stops → base.toNat + bytes.length < UInt64.size) → ∃ result c,
        Wire.Guarded.operations profile limit (bytes.length + 1) maximum
          ⟨bytes, 0, base, overflow⟩ = some (result, c) ∧
        c.buffer = bytes ∧ c.position ≤ bytes.length) ∧
    ((∃ e, Document.load bytes config = .error e ∧
        (load? bytes config).run = some (.error e)) ∨
      ∃ d p q, Document.load bytes config = .ok d ∧ (load? bytes config).run = some (.ok p) ∧
        p.InBounds ∧ p.answers? calls = some ((d.answers calls).1, q) ∧ q.InBounds) := by
  constructor
  · intro base overflow profile limit maximum hexact
    have hwithin : (⟨bytes, 0, base, overflow⟩ : Wire.Cursor).Within := ⟨Nat.zero_le _, hexact⟩
    obtain ⟨result, c, hrun, hreached, -⟩ :=
      Wire.Guarded.followsAt_operations profile limit maximum hwithin (Nat.le_refl _)
    refine ⟨result, c, hrun, hreached.buffer, ?_⟩
    exact hreached.within.position.trans_eq (congrArg List.length hreached.buffer)
  · rcases load?_cases bytes config with hrefused | ⟨d, p, hplain, hrun, h⟩
    · exact .inl hrefused
    · obtain ⟨q, hcalls, hq⟩ := h.exists_answers calls
      exact .inr ⟨d, p, q, hplain, hrun, h.inBounds, hcalls, hq.inBounds⟩

end Player

end Panel
