import Panel.Proofs.Derived.OnDemand
import Panel.Proofs.Touch.Run

/-!
# Actions on demand

The actions of a touch as they would run without slots for derived variables: such a variable is
computed whenever an action reads it, and writing it has no effect that lasts.  The actions that
run over a settled store do the same, one by one and all together.
-/

namespace Panel

/-! ## Running without derived slots -/

namespace Store

/-- What is read when derived variables are computed from the slots of a store. -/
def onDemand (derived : List DerivedVariable) (base : Store) : View :=
  View.onDemand derived base.get

/-- Write a variable when derived variables are computed on demand.  The write of a derived variable
is checked like any other, and then forgotten. -/
def setOnDemand (derived : List DerivedVariable) (base : Store) (id : VariableId) (value : Value) :
    Except StoreError (Bool × Store) :=
  if id ∈ derived.map (·.id) then do
    let old ← base.onDemand derived id
    if old.kind ≠ value.kind then .error (.kindMismatch id (.kind old.kind) value.kind)
    else .ok (!old.agrees value, base)
  else base.set id value

end Store

namespace Effect

/-- Write a variable and report it. -/
def writingOnDemand (derived : List DerivedVariable) (base : Store) (target : VariableId)
    (value : Value) : Except StoreError (Outcome × Store) := do
  let (changed, base) ← base.setOnDemand derived target value
  return (.written target changed, base)

/-- Let the effect happen. -/
def applyOnDemand (derived : List DerivedVariable) (base : Store) :
    Effect → Except StoreError (Outcome × Store)
  | setInteger target value => writingOnDemand derived base target (.int value)
  | setFloat target value => writingOnDemand derived base target (.float value)
  | copyText target text => do
    writingOnDemand derived base target (.text (← (base.onDemand derived).text text))
  | copyInteger target expression => do
    writingOnDemand derived base target
      (.int (← (base.onDemand derived).scalar expression).toInt32)
  | host request => .ok (.host request, base)

end Effect

/-- What came of actions that run without derived slots. -/
structure DemandRun where
  base : Store
  outcomes : List (Except StoreError Outcome)
  hostEvents : List HostEvent

namespace Content

/-- Run one action.  One that fails leaves its error and changes nothing. -/
def runOnDemand (content : Content) (component : ComponentId) (event : TouchEvent)
    (run : DemandRun) (id : ActionId) : DemandRun :=
  match content.action? id with
  | none => run
  | some action =>
    match action.effect.applyOnDemand content.derived run.base with
    | .error e => { run with outcomes := run.outcomes ++ [.error e] }
    | .ok (.written target changed, base) =>
      { run with base, outcomes := run.outcomes ++ [.ok (.written target changed)] }
    | .ok (.host request, base) =>
      { base
        outcomes := run.outcomes ++ [.ok (.host request)]
        hostEvents := run.hostEvents ++ [⟨request, component, event.position?⟩] }

/-- Run the actions of a touch one after the other. -/
def runAllOnDemand (content : Content) (component : ComponentId) (event : TouchEvent)
    (ids : List ActionId) : DemandRun :=
  ids.foldl (content.runOnDemand component event)
    ⟨content.store.without content.derived, [], []⟩

/-- What comes of an action over slots for all variables. -/
def outcome? (content : Content) (run : ActionRun) (id : ActionId) :
    Option (Except StoreError Outcome) :=
  (content.action? id).map fun action => (action.effect.apply run.store).map (·.1)

/-- What comes of each of some actions when they run one after the other. -/
def outcomes (content : Content) (component : ComponentId) (event : TouchEvent)
    (run : ActionRun) : List ActionId → List (Except StoreError Outcome)
  | [] => []
  | id :: rest => (content.outcome? run id).toList ++
      content.outcomes component event (content.runAction component event run id) rest

end Content

/-! ## One action -/

section

/-- A result in a store, as it is without the derived slots. -/
def Store.forget {α : Type} (derived : List DerivedVariable) (result : α × Store) : α × Store :=
  (result.1, result.2.without derived)

variable {derived : List DerivedVariable} {s : Store} (h : s.Declares derived)
  (hordered : s.Ordered derived) (hsettled : s.Settled derived)

include h hordered hsettled

theorem Store.setOnDemand_without (id : VariableId) (value : Value) :
    (s.without derived).setOnDemand derived id value = (s.set id value).map (forget derived) := by
  unfold setOnDemand
  split
  · next hid =>
      obtain ⟨d, hd, rfl⟩ := List.mem_map.1 hid
      obtain ⟨old, hslot, -⟩ := h.slot d hd
      have hold : (s.without derived).onDemand derived d.id = .ok old := by
        rw [onDemand, ← hsettled.get_eq hordered, get_of_slot? hslot]
      rw [hold, set, hslot]
      by_cases hkind : old.kind = value.kind
      · simp [bind, Except.bind, hkind, Except.map, forget, without_write_of_mem hid]
      · simp [bind, Except.bind, hkind, Except.map]
  · next hid =>
      rw [set, set, slot?_without hid]
      cases hslot : s.slot? id with
      | none => rfl
      | some slot =>
          dsimp only
          split
          · rfl
          · split
            · rfl
            · rw [Except.map, forget, without_write]

theorem Effect.writingOnDemand_without (target : VariableId) (value : Value) :
    writingOnDemand derived (s.without derived) target value =
      (writing s target value).map (Store.forget derived) := by
  rw [writingOnDemand, writing, Store.setOnDemand_without h hordered hsettled]
  cases s.set target value <;> rfl

theorem Effect.applyOnDemand_without (effect : Effect) :
    effect.applyOnDemand derived (s.without derived) =
      (effect.apply s).map (Store.forget derived) := by
  have hview : (s.without derived).onDemand derived = s.get := (hsettled.get_eq hordered).symm
  have hwriting := writingOnDemand_without h hordered hsettled
  cases effect with
  | setInteger target value => exact hwriting target _
  | setFloat target value => exact hwriting target _
  | copyText target text =>
      rw [applyOnDemand, apply, hview, show View.text s.get text = s.getText text from rfl]
      cases s.getText text with
      | error e => rfl
      | ok value => exact hwriting target _
  | copyInteger target expression =>
      rw [applyOnDemand, apply, hview,
        show View.scalar s.get expression = s.getScalar expression from rfl]
      cases s.getScalar expression with
      | error e => rfl
      | ok value => exact hwriting target _
  | host request => rfl

end

/-! ## All actions -/

namespace Content

variable {content : Content} {component : ComponentId} {event : TouchEvent} {run : ActionRun}
  {demand : DemandRun}

/-- What a run over a settled store and a run without derived slots have in common. -/
structure Agrees (content : Content) (run : ActionRun) (demand : DemandRun) : Prop where
  declares : run.store.Declares content.derived
  ordered : run.store.Ordered content.derived
  settled : run.store.Settled content.derived
  base : demand.base = run.store.without content.derived
  hostEvents : demand.hostEvents = run.hostEvents

/-- One action on demand does what the action does over slots for all variables. -/
theorem Agrees.runOnDemand_eq (component : ComponentId) (event : TouchEvent)
    (h : content.Agrees run demand) (id : ActionId) :
    content.runOnDemand component event demand id =
      { base := (content.runAction component event run id).store.without content.derived
        outcomes := demand.outcomes ++ (content.outcome? run id).toList
        hostEvents := (content.runAction component event run id).hostEvents } := by
  obtain ⟨base, outcomes, hostEvents⟩ := demand
  obtain rfl : base = _ := h.base
  obtain rfl : hostEvents = _ := h.hostEvents
  unfold runOnDemand Content.runAction outcome?
  cases content.action? id with
  | none => simp
  | some action =>
      dsimp only
      rw [Effect.applyOnDemand_without h.declares h.ordered h.settled]
      cases happly : action.effect.apply run.store with
      | error e => simp [Except.map, happly]
      | ok result =>
          obtain ⟨outcome, store⟩ := result
          rcases Effect.cases_of_apply happly with
            ⟨request, rfl, rfl⟩ | ⟨target, value, changed, rfl, -, hset⟩
          · simp [Except.map, Store.forget, happly]
          · have hstore : store.Declares content.derived :=
              h.declares.of_cleared (Store.cleared_of_set h.declares hset).symm
            simp [Except.map, Store.forget, happly, Store.without_refreshed hstore]

theorem Agrees.runAction (component : ComponentId) (event : TouchEvent)
    (h : content.Agrees run demand) (id : ActionId) :
    content.Agrees (content.runAction component event run id)
      (content.runOnDemand component event demand id) := by
  have hstep := advances_runAction component event h.declares id
  exact
    { declares := h.declares.of_cleared hstep.cleared.symm
      ordered := (Store.ordered_congr hstep.lists).2 h.ordered
      settled := settled_runAction component event h.declares h.ordered h.settled id
      base := by rw [h.runOnDemand_eq component event id]
      hostEvents := by rw [h.runOnDemand_eq component event id] }

theorem Agrees.foldl (component : ComponentId) (event : TouchEvent)
    (h : content.Agrees run demand) (ids : List ActionId) :
    content.Agrees (ids.foldl (content.runAction component event) run)
        (ids.foldl (content.runOnDemand component event) demand) ∧
      (ids.foldl (content.runOnDemand component event) demand).outcomes =
        demand.outcomes ++ content.outcomes component event run ids := by
  induction ids generalizing run demand with
  | nil => exact ⟨h, (List.append_nil _).symm⟩
  | cons id ids ih =>
      obtain ⟨hlast, houtcomes⟩ := ih (h.runAction component event id)
      refine ⟨hlast, ?_⟩
      rw [List.foldl_cons, houtcomes, h.runOnDemand_eq component event id, List.append_assoc,
        outcomes]

/-- The actions of a touch do what they would do if no derived variable had a slot. -/
theorem agrees_runActions (component : ComponentId) (event : TouchEvent)
    (h : content.store.Declares content.derived)
    (hordered : content.store.Ordered content.derived) (ids : List ActionId) :
    content.Agrees (content.runActions component event ids)
        (content.runAllOnDemand component event ids) ∧
      (content.runAllOnDemand component event ids).outcomes =
        content.outcomes component event ⟨content.store.refreshed content.derived, [], []⟩ ids := by
  have hstart : content.Agrees ⟨content.store.refreshed content.derived, [], []⟩
      ⟨content.store.without content.derived, [], []⟩ :=
    { declares := h.refreshed
      ordered := (Store.ordered_refreshed h).2 hordered
      settled := Store.settled_refreshed h hordered
      base := (Store.without_refreshed h).symm
      hostEvents := rfl }
  have hrun := hstart.foldl component event ids
  rwa [List.nil_append] at hrun

end Content

end Panel
