import Panel.Proofs.Document.Invalidation
import Panel.Proofs.Paint.Drawn
import Panel.Touch.Delivery

/-!
# What a touch in place delivers and records

A touch is turned away before it changes anything, or changes the scene as `Scene.deliver` does.
`Content.Runs` says what the actions of a delivered touch come to, action by action; the record
lists what they write.
-/

namespace Panel

/-! ## Ascending numbers -/

theorem ascending_eq_dedup (numbers : List Nat) : ascending numbers = numbers.mergeSort.dedup :=
  (numbers.sortedLE_mergeSort).pairwise.destutter_eq_dedup

theorem mem_ascending {numbers : List Nat} {i : Nat} : i ∈ ascending numbers ↔ i ∈ numbers := by
  rw [ascending_eq_dedup, List.mem_dedup, List.mem_mergeSort]

theorem sortedLT_ascending (numbers : List Nat) : (ascending numbers).SortedLT := by
  have hsorted : numbers.mergeSort.dedup.SortedLE :=
    ((numbers.sortedLE_mergeSort).pairwise.sublist (List.dedup_sublist _)).sortedLE
  rw [ascending_eq_dedup]
  exact hsorted.sortedLT_of_nodup (List.nodup_dedup _)

/-- Sorting what depends on each of some variables gives what depends on any of them. -/
theorem DependencyIndex.ascending_flatMap_affected (index : DependencyIndex)
    (ids : List VariableId) : ascending (ids.flatMap index.affected) = index.affectedBy ids := by
  apply (sortedLT_ascending _).eq_of_mem_iff (sortedLT_affectedBy index ids)
  intro i
  rw [mem_ascending, List.mem_flatMap, mem_affectedBy]

/-- Names that are added one after the other stand in the order of their first mention. -/
theorem VariableId.foldl_addTo_nil (ids : List VariableId) :
    ids.foldl VariableId.addTo [] = ids.eraseDups := by
  induction ids using List.reverseRecOn with
  | nil => rfl
  | append_singleton front id ih =>
      rw [List.foldl_append, ih, List.eraseDups_append]
      by_cases hid : id ∈ front
      · simp [addTo, List.removeAll, hid]
      · simp [addTo, List.removeAll, hid, List.eraseDups_cons]

/-! ## The actions -/

namespace Content

/-- Actions run one after the other over a store: the variables that they write, in the order of the
writes, what they ask of the host, and the store that they leave. -/
inductive Runs (content : Content) :
    Store → List ActionId → List VariableId → List UInt32 → Store → Prop
  | nil {s} : Runs content s [] [] [] s
  | undeclared {s id ids writes requests t} (haction : content.action? id = none)
      (hrest : Runs content s ids writes requests t) :
      Runs content s (id :: ids) writes requests t
  | failed {s id ids writes requests t action e} (haction : content.action? id = some action)
      (happly : action.effect.apply s = .error e)
      (hrest : Runs content s ids writes requests t) :
      Runs content s (id :: ids) writes requests t
  | asked {s id ids writes requests t action request u}
      (haction : content.action? id = some action)
      (happly : action.effect.apply s = .ok (.host request, u))
      (hrest : Runs content u ids writes requests t) :
      Runs content s (id :: ids) writes (request :: requests) t
  /-- The derived variables are computed again, whether or not the value was a change. -/
  | written {s id ids writes requests t action target changed u}
      (haction : content.action? id = some action)
      (happly : action.effect.apply s = .ok (.written target changed, u))
      (hrest : Runs content (u.refreshed content.derived) ids writes requests t) :
      Runs content s (id :: ids) (target :: writes) requests t

variable {content : Content} {component : ComponentId} {event : TouchEvent} {s t u : Store}
  {front back : List ActionId} {writes later : List VariableId} {requests further : List UInt32}

theorem Runs.append (h : content.Runs s front writes requests t)
    (hback : content.Runs t back later further u) :
    content.Runs s (front ++ back) (writes ++ later) (requests ++ further) u := by
  induction h with
  | nil => exact hback
  | undeclared haction _ ih => exact .undeclared haction (ih hback)
  | failed haction happly _ ih => exact .failed haction happly (ih hback)
  | asked haction happly _ ih => exact .asked haction happly (ih hback)
  | written haction happly _ ih => exact .written haction happly (ih hback)

/-- A run of actions and the same run after some more of them. -/
structure Extends (content : Content) (component : ComponentId) (event : TouchEvent)
    (run : ActionRun) (ids : List ActionId) (writes : List VariableId) (requests : List UInt32)
    (after : ActionRun) : Prop where
  runs : content.Runs run.store ids writes requests after.store
  mutated : after.mutated = writes.foldl VariableId.addTo run.mutated
  hostEvents : after.hostEvents =
    run.hostEvents ++ requests.map (⟨·, component, event.position?⟩)

theorem Extends.trans {run mid after : ActionRun}
    (h : content.Extends component event run front writes requests mid)
    (h' : content.Extends component event mid back later further after) :
    content.Extends component event run (front ++ back) (writes ++ later) (requests ++ further)
      after where
  runs := h.runs.append h'.runs
  mutated := by rw [h'.mutated, h.mutated, List.foldl_append]
  hostEvents := by rw [h'.hostEvents, h.hostEvents, List.append_assoc, List.map_append]

theorem exists_extends_runAction (content : Content) (component : ComponentId)
    (event : TouchEvent) (run : ActionRun) (id : ActionId) :
    ∃ writes requests, content.Extends component event run [id] writes requests
      (content.runAction component event run id) := by
  rw [runAction]
  cases haction : content.action? id with
  | none => exact ⟨[], [], .undeclared haction .nil, rfl, (List.append_nil _).symm⟩
  | some action =>
      dsimp only
      cases happly : action.effect.apply run.store with
      | error e => exact ⟨[], [], .failed haction happly .nil, rfl, (List.append_nil _).symm⟩
      | ok result =>
          obtain ⟨outcome, store⟩ := result
          rcases Effect.cases_of_apply happly with
            ⟨request, rfl, rfl⟩ | ⟨target, value, changed, rfl, -, -⟩
          · exact ⟨[], [request], .asked haction happly .nil, rfl, rfl⟩
          · exact ⟨[target], [], .written haction happly .nil, rfl, (List.append_nil _).symm⟩

theorem exists_extends_foldl (content : Content) (component : ComponentId) (event : TouchEvent)
    (run : ActionRun) (ids : List ActionId) :
    ∃ writes requests, content.Extends component event run ids writes requests
      (ids.foldl (content.runAction component event) run) := by
  induction ids generalizing run with
  | nil => exact ⟨[], [], .nil, rfl, (List.append_nil _).symm⟩
  | cons id ids ih =>
      obtain ⟨writes, requests, hfirst⟩ := exists_extends_runAction content component event run id
      obtain ⟨later, further, hrest⟩ := ih (content.runAction component event run id)
      exact ⟨writes ++ later, requests ++ further, hfirst.trans hrest⟩

/-- What the actions of a touch come to. -/
theorem runs_runActions (content : Content) (component : ComponentId) (event : TouchEvent)
    (ids : List ActionId) :
    ∃ writes requests,
      content.Runs (content.store.refreshed content.derived) ids writes requests
        (content.runActions component event ids).store ∧
      (content.runActions component event ids).mutated = writes.eraseDups ∧
      (content.runActions component event ids).hostEvents =
        requests.map (⟨·, component, event.position?⟩) := by
  obtain ⟨writes, requests, hruns, hmutated, hhost⟩ := exists_extends_foldl content component event
    ⟨content.store.refreshed content.derived, [], []⟩ ids
  rw [VariableId.foldl_addTo_nil] at hmutated
  exact ⟨writes, requests, hruns, hmutated, hhost⟩

end Content

namespace Scene

variable {s : Scene} {component : ComponentId} {event : TouchEvent} {index : Nat}

/-! ## In place -/

/-- A scene in the midst of a touch: its variables and its queue hold what has come of the actions
so far. -/
def amid (s : Scene) (run : ActionRun) : Scene :=
  { s.withStore run.store with
    dispatcher := { s.dispatcher with hostEvents := s.dispatcher.hostEvents ++ run.hostEvents } }

theorem run_act (s : Scene) (component : ComponentId) (event : TouchEvent) (run : ActionRun)
    (id : ActionId) :
    (act component event run.mutated id).run (s.amid run) =
      ((s.content.runAction component event run id).mutated,
        s.amid (s.content.runAction component event run id)) := by
  cases haction : s.content.action? id with
  | none =>
      have hnow : (s.amid run).content.action? id = none := haction
      simp only [act, Content.runAction, StateT.run_bind, StateT.run_get, pure_bind, haction, hnow]
      rfl
  | some action =>
      have hnow : (s.amid run).content.action? id = some action := haction
      have hstore : (s.amid run).content.store = run.store := rfl
      simp only [act, Content.runAction, StateT.run_bind, StateT.run_get, pure_bind, haction, hnow,
        hstore]
      cases happly : action.effect.apply run.store with
      | error e => rfl
      | ok result =>
          obtain ⟨outcome, store⟩ := result
          rcases Effect.cases_of_apply happly with
            ⟨request, rfl, rfl⟩ | ⟨target, value, changed, rfl, -, -⟩
          · show (_, ((s.amid run).withStore run.store).enqueue _) = _
            rw [enqueue]
            simp only [amid, withStore, List.append_assoc]
          · rfl

theorem run_foldlM_act (s : Scene) (component : ComponentId) (event : TouchEvent) (run : ActionRun)
    (ids : List ActionId) :
    (ids.foldlM (act component event) run.mutated).run (s.amid run) =
      ((ids.foldl (s.content.runAction component event) run).mutated,
        s.amid (ids.foldl (s.content.runAction component event) run)) := by
  induction ids generalizing run with
  | nil => rfl
  | cons id ids ih =>
      rw [List.foldlM_cons, StateT.run_bind, run_act]
      exact ih (s.content.runAction component event run id)

/-- The part of a touch after its actions. -/
theorem run_conclude (s : Scene) (component : ComponentId) (event : TouchEvent)
    (mutated : List VariableId) :
    (conclude component event mutated).run s =
      ((), ((s.invalidate (s.dispatcher.dependencies.affectedBy mutated)).count).note
        ⟨s.dispatcher.sequence + 1, component, event.trigger, mutated,
          s.dispatcher.dependencies.affectedBy mutated⟩) := by
  rw [← DependencyIndex.ascending_flatMap_affected]
  rfl

theorem run_carryOut (s : Scene) (component : ComponentId) (event : TouchEvent)
    (bound : List ActionId) :
    (carryOut component event bound).run s = ((), s.deliver component event bound) := by
  have hstart : s.amid ⟨s.refresh.content.store, [], []⟩ = s.refresh := by
    rw [amid, List.append_nil]
    rfl
  have hfold := run_foldlM_act s component event ⟨s.refresh.content.store, [], []⟩ bound
  rw [hstart] at hfold
  rw [carryOut, StateT.run_bind, StateT.run_modify, pure_bind, StateT.run_bind, hfold]
  exact run_conclude _ component event _

/-- A touch in place is turned away where it cannot be delivered, and delivered where it can. -/
theorem run_dispatch (s : Scene) (index : Nat) (event : TouchEvent) :
    (dispatch index event).run s =
      match s.dispatch? index event with
      | some after => (true, after)
      | none => (false, s) := by
  cases hnode : s.content.tree.node? index with
  | none =>
      simp only [dispatch, dispatch?, StateT.run_bind, StateT.run_get, pure_bind, hnode]
      rfl
  | some n =>
      simp only [dispatch, dispatch?, accepts, ComponentTree.actionsFor, StateT.run_bind,
        StateT.run_get, pure_bind, hnode]
      cases s.content.tree.isDrawn s.layout index with
      | false => rfl
      | true =>
          cases (Modifiers.actionsFor n.modifiers event.trigger).isEmpty with
          | true => rfl
          | false =>
              have hcarried :=
                run_carryOut s n.id event (Modifiers.actionsFor n.modifiers event.trigger)
              exact congrArg (fun ended => (true, ended.2)) hcarried

/-! ## What is delivered -/

/-- Whether there is a component with a number that can be touched: it and all above it are placed
and visible, and it binds some action to the trigger. -/
def Receives (s : Scene) (index : Nat) (trigger : TouchTrigger) : Prop :=
  ∃ n, s.content.tree.node? index = some n ∧
    (∀ i ∈ index :: s.content.tree.ancestors index,
      s.layout.phase i = .placed ∧ s.layout.visibility i = .visible) ∧
    ∃ actions, .touchAction trigger actions ∈ n.modifiers ∧ actions ≠ []

end Scene

theorem Layout.isShown_iff {l : Layout} {i : Nat} :
    l.isShown i = true ↔ l.phase i = .placed ∧ l.visibility i = .visible := by
  rw [isShown, isPlaced, Bool.and_eq_true, decide_eq_true_eq]
  cases l.visibility i <;> simp [Visibility.isDrawn]

theorem Modifier.actionsFor_ne_nil_iff {m : Modifier} {trigger : TouchTrigger} :
    m.actionsFor trigger ≠ [] ↔ ∃ actions, m = .touchAction trigger actions ∧ actions ≠ [] := by
  cases m with
  | touchAction t actions =>
      by_cases ht : t = trigger
      · simp [actionsFor, ht]
      · simp [actionsFor, ht]
  | _ => exact iff_of_false (fun h => h rfl) nofun

theorem Modifiers.actionsFor_ne_nil_iff {ms : Modifiers} {trigger : TouchTrigger} :
    Modifiers.actionsFor ms trigger ≠ [] ↔
      ∃ actions, .touchAction trigger actions ∈ ms ∧ actions ≠ [] := by
  have hsome : Modifiers.actionsFor ms trigger ≠ [] ↔ ∃ m ∈ ms, m.actionsFor trigger ≠ [] := by
    simp [actionsFor, List.flatMap_eq_nil_iff]
  rw [hsome]
  simp only [Modifier.actionsFor_ne_nil_iff]
  constructor
  · rintro ⟨_, hmem, actions, rfl, hactions⟩
    exact ⟨actions, hmem, hactions⟩
  · rintro ⟨actions, hmem, hactions⟩
    exact ⟨_, hmem, actions, rfl, hactions⟩

namespace Scene

variable {s : Scene} {index : Nat} {event : TouchEvent}

theorem accepts_iff {n : Node} {trigger : TouchTrigger}
    (hnode : s.content.tree.node? index = some n) :
    s.accepts index trigger = true ↔ s.Receives index trigger := by
  rw [accepts, Bool.and_eq_true, ComponentTree.isDrawn_iff, ComponentTree.actionsFor, hnode,
    Bool.not_eq_true', List.isEmpty_eq_false_iff, Modifiers.actionsFor_ne_nil_iff]
  simp only [Layout.isShown_iff, Receives, hnode, Option.some.injEq, exists_eq_left']

theorem dispatch?_cases (s : Scene) (index : Nat) (event : TouchEvent) :
    (¬s.Receives index event.trigger ∧ s.dispatch? index event = none) ∨
      s.Receives index event.trigger ∧ ∃ n, s.content.tree.node? index = some n ∧
        s.dispatch? index event =
          some (s.deliver n.id event (Modifiers.actionsFor n.modifiers event.trigger)) := by
  rw [dispatch?]
  cases hnode : s.content.tree.node? index with
  | none =>
      left
      refine ⟨?_, rfl⟩
      rintro ⟨n, hsome, -⟩
      rw [hnode] at hsome
      contradiction
  | some n =>
      dsimp only
      by_cases hreceives : s.Receives index event.trigger
      · rw [if_pos ((accepts_iff hnode).2 hreceives)]
        exact .inr ⟨hreceives, n, rfl, rfl⟩
      · rw [if_neg (mt (accepts_iff hnode).1 hreceives)]
        exact .inl ⟨hreceives, rfl⟩

/-- The root stands above every component, so it has an entry wherever a touch is received. -/
theorem Receives.size_pos {trigger : TouchTrigger} (h : s.Receives index trigger) :
    0 < s.layout.size := by
  obtain ⟨n, hnode, hplaced, -⟩ := h
  have hroot : 0 ∈ index :: s.content.tree.ancestors index := by
    obtain ⟨above, children, hat, -⟩ := ComponentTree.exists_at_of_node? hnode
    rw [ComponentTree.ancestors_eq hat]
    exact List.mem_of_getLast? hat.getLast?_above
  rw [Nat.pos_iff_ne_zero]
  intro hsize
  have hphase := (hplaced 0 hroot).1
  rw [Layout.phase, List.getElem?_eq_none (Nat.le_of_eq hsize)] at hphase
  contradiction

/-- A touch is delivered exactly to a component that receives it, and changes nothing where it is
not.  Where it is, the scene has one more record, with the number of touches delivered so far.  It
lists the variables that the bound actions have written, once each in the order of the first writes,
and in ascending order the components that depend on any of them; and the root is to be painted
again. -/
theorem dispatch_records (s : Scene) (index : Nat) (event : TouchEvent) :
    let (delivered, after) := (dispatch index event).run s
    (delivered = true ↔ s.Receives index event.trigger) ∧
      (delivered = false → after = s) ∧
      (delivered = true → ∃ n record writes requests,
        s.content.tree.node? index = some n ∧
        s.content.Runs (s.content.store.refreshed s.content.derived)
          (Modifiers.actionsFor n.modifiers event.trigger) writes requests after.content.store ∧
        after.dispatcher =
          { dependencies := s.dispatcher.dependencies
            pending := s.dispatcher.pending ++ [record]
            hostEvents :=
              s.dispatcher.hostEvents ++ requests.map (⟨·, n.id, event.position?⟩)
            sequence := s.dispatcher.sequence + 1 } ∧
        record.sequence = s.dispatcher.sequence + 1 ∧
        record.component = n.id ∧
        record.trigger = event.trigger ∧
        record.mutated = writes.eraseDups ∧
        record.affected.Pairwise (· < ·) ∧
        (∀ i, i ∈ record.affected ↔
          ∃ id ∈ record.mutated, i ∈ s.dispatcher.dependencies.affected id) ∧
        (after.layout.dirty 0).paint = true) := by
  rw [run_dispatch]
  rcases dispatch?_cases s index event with ⟨hrefused, hnone⟩ | ⟨hreceives, n, hnode, hsome⟩
  · rw [hnone]
    exact ⟨iff_of_false nofun hrefused, fun _ => rfl, nofun⟩
  · rw [hsome]
    refine ⟨iff_of_true rfl hreceives, nofun, fun _ => ?_⟩
    obtain ⟨writes, requests, hruns, hmutated, hhost⟩ := Content.runs_runActions s.content n.id
      event (Modifiers.actionsFor n.modifiers event.trigger)
    refine ⟨n, s.record n.id event (Modifiers.actionsFor n.modifiers event.trigger), writes,
      requests, hnode, hruns, ?_, rfl, rfl, rfl, hmutated, ?_, ?_, ?_⟩
    · rw [← hhost]
      rfl
    · exact (DependencyIndex.sortedLT_affectedBy _ _).pairwise
    · exact fun i => DependencyIndex.mem_affectedBy
    · rw [layout_deliver, Layout.dirty_invalidate hreceives.size_pos]
      simp [DirtyFlags.union, DirtyFlags.paintOnly]

/-- The actions are an undeclared one, a write, a write of the value that is there, one that fails
since its target is a constant, the first write again, and a request. -/
example :
    let actions : List Action := [⟨⟨1⟩, .setInteger ⟨1⟩ 5⟩, ⟨⟨2⟩, .setInteger ⟨2⟩ 8⟩,
      ⟨⟨3⟩, .setInteger ⟨3⟩ 1⟩, ⟨⟨4⟩, .host 6⟩]
    let store : Store :=
      ⟨[⟨⟨1⟩, .int 5, false⟩, ⟨⟨2⟩, .int 7, false⟩, ⟨⟨3⟩, .int 0, true⟩], [], 4⟩
    let root : Component :=
      .node ⟨1⟩ .spacer [.touchAction .up [⟨9⟩, ⟨2⟩, ⟨1⟩, ⟨3⟩, ⟨2⟩, ⟨4⟩]] []
    let s : Scene := ⟨⟨store, [], ⟨root⟩, actions⟩, ⟨[⟨.empty, .visible, .placed, .none⟩]⟩,
      .new ⟨[[⟨1⟩]], []⟩⟩
    ((dispatch 0 .up).run s).2.dispatcher =
      ⟨⟨[[⟨1⟩]], []⟩, [⟨1, ⟨1⟩, .up, [⟨2⟩, ⟨1⟩], [0]⟩], [⟨6, ⟨1⟩, none⟩], 1⟩ := by
  decide +kernel

end Scene

end Panel
