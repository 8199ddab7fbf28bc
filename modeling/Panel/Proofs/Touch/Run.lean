import Panel.Proofs.Derived.Refresh
import Panel.Proofs.Store.Effect
import Panel.Touch.Dispatch

/-!
# What running actions does

An action writes one variable, or asks the host, or does nothing.  A run of actions keeps kinds and
lists, writes no variables but derived ones and those that it reports, and leaves the store settled
if it was settled before.
-/

namespace Panel

namespace Content

variable {content : Content} {component : ComponentId} {event : TouchEvent} {run : ActionRun}

/-- Everything that an action can do. -/
theorem runAction_cases (content : Content) (component : ComponentId) (event : TouchEvent)
    (run : ActionRun) (id : ActionId) :
    content.runAction component event run id = run ∨
      (∃ request, content.runAction component event run id =
        { run with hostEvents := run.hostEvents ++ [⟨request, component, event.position?⟩] }) ∨
      ∃ target value changed store, value.kind ≠ .list ∧
        run.store.set target value = .ok (changed, store) ∧
        content.runAction component event run id =
          { run with
            store := store.refreshed content.derived
            mutated := VariableId.addTo run.mutated target } := by
  unfold runAction
  cases content.action? id with
  | none => exact .inl rfl
  | some action =>
      dsimp only
      cases happly : action.effect.apply run.store with
      | error e => exact .inl rfl
      | ok result =>
          obtain ⟨outcome, store⟩ := result
          rcases Effect.cases_of_apply happly with
            ⟨request, rfl, rfl⟩ | ⟨target, value, changed, rfl, hlist, hset⟩
          · exact .inr (.inl ⟨request, rfl⟩)
          · exact .inr (.inr ⟨target, value, changed, store, hlist, hset, rfl⟩)

end Content

namespace ActionRun

variable {derived : List DerivedVariable} {a b c : ActionRun}

/-- How a run may go on. -/
structure Advances (derived : List DerivedVariable) (a b : ActionRun) : Prop where
  cleared : b.store.cleared = a.store.cleared
  lists : ∀ id, b.store.getList id = a.store.getList id
  mutated : a.mutated ⊆ b.mutated
  /-- A variable that is not reported keeps its value, unless it is a derived one. -/
  kept : ∀ id, id ∉ derived.map (·.id) → id ∉ b.mutated → b.store.get id = a.store.get id

theorem Advances.refl (derived : List DerivedVariable) (a : ActionRun) : a.Advances derived a :=
  ⟨rfl, fun _ => rfl, List.Subset.refl _, fun _ _ _ => rfl⟩

theorem Advances.trans (hab : a.Advances derived b) (hbc : b.Advances derived c) :
    a.Advances derived c where
  cleared := hbc.cleared.trans hab.cleared
  lists := fun id => (hbc.lists id).trans (hab.lists id)
  mutated := List.Subset.trans hab.mutated hbc.mutated
  kept := by
    intro id hderived hmutated
    rw [hbc.kept id hderived hmutated]
    exact hab.kept id hderived fun hmem => hmutated (hbc.mutated hmem)

end ActionRun

namespace Store

variable {derived : List DerivedVariable} {s t : Store} {target : VariableId} {value : Value}
  {changed : Bool}

theorem cleared_of_set (h : s.Declares derived) (hset : s.set target value = .ok (changed, t)) :
    t.cleared = s.cleared := by
  obtain ⟨old, hslot, hkind, -, rfl⟩ := set_eq_ok.1 hset
  exact cleared_write h.ids hslot hkind

theorem getList_of_set (hset : s.set target value = .ok (changed, t))
    (hlist : value.kind ≠ .list) (id : VariableId) : t.getList id = s.getList id := by
  obtain ⟨old, hslot, hkind, -, rfl⟩ := set_eq_ok.1 hset
  exact getList_write hslot hkind hlist id

theorem get_of_set_of_ne {id : VariableId} (hset : s.set target value = .ok (changed, t))
    (hid : id ≠ target) : t.get id = s.get id := by
  obtain ⟨old, hslot, hkind, -, rfl⟩ := set_eq_ok.1 hset
  exact get_write_of_ne hid

end Store

namespace Content

variable {content : Content} {component : ComponentId} {event : TouchEvent} {run : ActionRun}

theorem advances_runAction (component : ComponentId) (event : TouchEvent)
    (h : run.store.Declares content.derived) (id : ActionId) :
    run.Advances content.derived (content.runAction component event run id) := by
  rcases runAction_cases content component event run id with
    heq | ⟨request, heq⟩ | ⟨target, value, changed, store, hlist, hset, heq⟩
  · rw [heq]
    exact .refl _ run
  · rw [heq]
    exact ⟨rfl, fun _ => rfl, List.Subset.refl _, fun _ _ _ => rfl⟩
  · have hcleared := Store.cleared_of_set h hset
    have hdeclares : store.Declares content.derived := h.of_cleared hcleared.symm
    rw [heq]
    constructor
    · exact (Store.cleared_refreshed hdeclares).trans hcleared
    · intro id
      exact (Store.getList_refreshed hdeclares id).trans (Store.getList_of_set hset hlist id)
    · intro id hid
      exact VariableId.mem_addTo.2 (.inl hid)
    · intro id hderived hmutated
      rw [VariableId.mem_addTo, not_or] at hmutated
      rw [Store.get_refreshed_of_notMem hdeclares hderived, Store.get_of_set_of_ne hset hmutated.2]

/-- Only a write changes the store, and the store is refreshed after every write. -/
theorem settled_runAction (component : ComponentId) (event : TouchEvent)
    (h : run.store.Declares content.derived)
    (hordered : run.store.Ordered content.derived) (hsettled : run.store.Settled content.derived)
    (id : ActionId) :
    (content.runAction component event run id).store.Settled content.derived := by
  rcases runAction_cases content component event run id with
    heq | ⟨request, heq⟩ | ⟨target, value, changed, store, hlist, hset, heq⟩
  · rwa [heq]
  · rwa [heq]
  · have hdeclares : store.Declares content.derived :=
      h.of_cleared (Store.cleared_of_set h hset).symm
    rw [heq]
    apply Store.settled_refreshed hdeclares
    rwa [Store.ordered_congr (Store.getList_of_set hset hlist)]

theorem advances_foldl (h : run.store.Declares content.derived) (ids : List ActionId) :
    run.Advances content.derived (ids.foldl (content.runAction component event) run) := by
  induction ids generalizing run with
  | nil => exact .refl _ run
  | cons id ids ih =>
      have hstep := advances_runAction component event h id
      exact hstep.trans (ih (h.of_cleared hstep.cleared.symm))

theorem settled_foldl (h : run.store.Declares content.derived)
    (hordered : run.store.Ordered content.derived) (hsettled : run.store.Settled content.derived)
    (ids : List ActionId) :
    (ids.foldl (content.runAction component event) run).store.Settled content.derived := by
  induction ids generalizing run with
  | nil => exact hsettled
  | cons id ids ih =>
      have hstep := advances_runAction component event h id
      apply ih
      · exact h.of_cleared hstep.cleared.symm
      · rwa [Store.ordered_congr hstep.lists]
      · exact settled_runAction component event h hordered hsettled id

/-! ## The actions of a touch -/

theorem cleared_runActions (h : content.store.Declares content.derived) (ids : List ActionId) :
    (content.runActions component event ids).store.cleared = content.store.cleared :=
  (advances_foldl h.refreshed ids).cleared.trans (Store.cleared_refreshed h)

theorem getList_runActions (h : content.store.Declares content.derived) (ids : List ActionId)
    (id : VariableId) :
    (content.runActions component event ids).store.getList id = content.store.getList id :=
  ((advances_foldl h.refreshed ids).lists id).trans (Store.getList_refreshed h id)

theorem settled_runActions (h : content.store.Declares content.derived)
    (hordered : content.store.Ordered content.derived) (ids : List ActionId) :
    (content.runActions component event ids).store.Settled content.derived :=
  settled_foldl h.refreshed ((Store.ordered_refreshed h).2 hordered)
    (Store.settled_refreshed h hordered) ids

theorem get_runActions (h : content.store.Declares content.derived) {ids : List ActionId}
    {id : VariableId} (hderived : id ∉ content.derived.map (·.id))
    (hmutated : id ∉ (content.runActions component event ids).mutated) :
    (content.runActions component event ids).store.get id = content.store.get id :=
  ((advances_foldl h.refreshed ids).kept id hderived hmutated).trans
    (Store.get_refreshed_of_notMem h hderived)

end Content

end Panel
