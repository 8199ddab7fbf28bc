import Panel.Proofs.Document.Frame
import Panel.Proofs.Document.Restart

/-!
# Derived variables between calls

Loading, updates, restarts, delivered touches and writes that change a variable all recompute the
derived variables, and no other call changes what recipes read.  So derived variables are up to date
after every call.  There is one exception.  A write of one zero over the zero of the other sign is
taken for no change and recomputes nothing, but it is stored, and what recipes make of the number
shows the sign.
-/

namespace Panel

/-- Whether a call recomputes the derived variables of a document. -/
def HostCall.refreshes (d : Document) : HostCall → Bool
  | update .. => true
  | paint => false
  | touch component event => (d.touch component event).1
  | setNamed name value =>
    match d.setNamed name value with
    | .ok (changed, _) => changed
    | .error _ => false
  | takeHostEvents => false
  | restart => true

namespace Document

variable {d e loaded : Document}

/-- The derived variables are up to date, if their recipes read nothing that is written later. -/
def UpToDate (d : Document) : Prop :=
  d.scene.content.store.Ordered d.scene.content.derived →
    d.scene.content.store.Settled d.scene.content.derived

theorem Follows.upToDate_update (h : Follows loaded d) (hloaded : loaded.Pristine) (viewport : Size)
    (textMeasure : TextMeasure) : (d.update viewport textMeasure).2.UpToDate := by
  have hdeclares := h.declares hloaded
  intro hordered
  exact Store.settled_refreshed hdeclares ((Store.ordered_refreshed hdeclares).1 hordered)

theorem Follows.upToDate_touch (h : Follows loaded d) (hloaded : loaded.Pristine)
    {component : ComponentId} {event : TouchEvent} (htouch : d.touch component event = (true, e)) :
    e.UpToDate := by
  have hdeclares := h.declares hloaded
  obtain ⟨index, n, -, -, rfl⟩ := exists_deliver_of_touch htouch
  intro hordered
  exact Content.settled_runActions hdeclares
    ((Store.ordered_congr (Content.getList_runActions hdeclares _)).1 hordered) _

theorem Follows.upToDate_setNamed (h : Follows loaded d) (hloaded : loaded.Pristine) {name : String}
    {value : Value} (hset : d.setNamed name value = .ok (true, e)) : e.UpToDate := by
  obtain ⟨id, store, -, hwrite, rfl⟩ := setNamed_eq_ok.1 hset
  have hdeclares := h.declares hloaded
  have hstore : store.Declares d.scene.content.derived :=
    hdeclares.of_cleared (Store.cleared_of_set hdeclares hwrite).symm
  rw [if_pos rfl, UpToDate, Scene.content_changed]
  intro hordered
  exact Store.settled_refreshed hstore ((Store.ordered_refreshed hstore).1 hordered)

theorem Follows.upToDate_restart (h : Follows loaded d) (hloaded : loaded.Pristine) :
    d.restart.UpToDate := by
  have hinitial : d.initial.Declares d.scene.content.derived := by
    rw [h.derived_eq, h.initial, hloaded.initial]
    exact hloaded.declares
  intro hordered
  exact Store.settled_refreshed hinitial ((Store.ordered_refreshed hinitial).1 hordered)

/-- A call that recomputes the derived variables brings them up to date, whatever they were. -/
theorem Follows.upToDate_perform (h : Follows loaded d) (hloaded : loaded.Pristine) {call : HostCall}
    (hcall : call.refreshes d = true) : (d.perform call).UpToDate := by
  cases call with
  | update viewport textMeasure => exact h.upToDate_update hloaded viewport textMeasure
  | paint => contradiction
  | touch component event => exact h.upToDate_touch hloaded (Prod.ext hcall rfl)
  | setNamed name value =>
      rw [HostCall.refreshes] at hcall
      rw [Document.perform]
      cases hset : d.setNamed name value with
      | error e => simp [hset] at hcall
      | ok result =>
          obtain ⟨changed, e⟩ := result
          obtain rfl : changed = true := by simpa [hset] using hcall
          exact h.upToDate_setNamed hloaded hset
  | takeHostEvents => contradiction
  | restart => exact h.upToDate_restart hloaded

/-- Any other call leaves variables and recipes alone, unless it puts one zero in place of the
other. -/
theorem Follows.content_perform (h : Follows loaded d) (hloaded : loaded.Pristine) {call : HostCall}
    (hcall : call.refreshes d = false) (hzero : call.swapsZero d.scene.content.store = false) :
    (d.perform call).scene.content = d.scene.content := by
  cases call with
  | update viewport textMeasure => contradiction
  | paint => rfl
  | touch component event =>
      rcases d.touch_cases component event with htouch | ⟨index, n, -, -, -, htouch⟩
      · rw [Document.perform, htouch]
      · rw [HostCall.refreshes, htouch] at hcall
        contradiction
  | setNamed name value =>
      rw [HostCall.refreshes] at hcall
      rw [Document.perform]
      cases hset : d.setNamed name value with
      | error e => rfl
      | ok result =>
          obtain ⟨changed, e⟩ := result
          obtain rfl : changed = false := by simpa [hset] using hcall
          rw [h.eq_of_setNamed hloaded hset hzero]
  | takeHostEvents => rfl
  | restart => contradiction

/-- One call after the other keeps the derived variables up to date. -/
theorem Follows.upToDate_run (h : Follows loaded d) (hloaded : loaded.Pristine) (hupToDate : d.UpToDate)
    {calls : List HostCall} (hzero : d.swapsZero calls = false) : (d.run calls).UpToDate := by
  induction calls generalizing d with
  | nil => exact hupToDate
  | cons call calls ih =>
      rw [swapsZero, Bool.or_eq_false_iff] at hzero
      rw [run_cons]
      apply ih (h.perform hloaded call) _ hzero.2
      cases hcall : call.refreshes d with
      | true => exact h.upToDate_perform hloaded hcall
      | false =>
          rw [UpToDate, h.content_perform hloaded hcall hzero.1]
          exact hupToDate

/-- After loading, and after any calls the last of which recomputes derived variables, every derived
variable holds what its recipe computes, and further calls keep it so as long as none of them puts
one zero in place of the other. -/
theorem settled_run {bytes : List UInt8} {config : Config} {loaded : Document}
    (h : load bytes config = .ok loaded) {before : List HostCall}
    (hbefore : ∀ front call, before = front ++ [call] → call.refreshes (loaded.run front) = true)
    (after : List HostCall) (hzero : (loaded.run before).swapsZero after = false) :
    let content := (loaded.run (before ++ after)).scene.content
    content.store.Ordered content.derived → content.store.Settled content.derived := by
  have hloaded := pristine_of_load h
  have hfollows : Follows loaded (loaded.run before) := hloaded.follows.run hloaded before
  have hupToDate : (loaded.run before).UpToDate := by
    rcases List.eq_nil_or_concat before with rfl | ⟨front, call, rfl⟩
    · exact hloaded.settled
    · rw [List.concat_eq_append] at hbefore ⊢
      rw [run_concat]
      exact (hloaded.follows.run hloaded front).upToDate_perform hloaded (hbefore front call rfl)
  have hrun : loaded.run (before ++ after) = (loaded.run before).run after := List.foldl_append
  rw [hrun]
  exact hfollows.upToDate_run hloaded hupToDate hzero

/-- An update shows the sign of a zero, and a later write of the same zero changes nothing. -/
theorem settled_run_sign :
    let before : List HostCall :=
      [.setNamed "x" (.float .negZero), .update .empty fun _ _ => .empty]
    let after : List HostCall := [.setNamed "x" (.float .negZero), .takeHostEvents]
    ∃ loaded, load numberDocument {} = .ok loaded ∧
      let content := (loaded.run (before ++ after)).scene.content
      content.store.slots.map (·.value) = [.float .negZero, .text "-0"] ∧
      content.store.Settled content.derived := by
  intro before after
  have hfacts : (load numberDocument {}).toOption.any (fun loaded => decide (
      let content := (loaded.run (before ++ after)).scene.content
      content.store.Ordered content.derived ∧
      (loaded.run before).swapsZero after = false ∧
      content.store.slots.map (·.value) = [.float .negZero, .text "-0"])) = true := by
    decide +kernel
  obtain ⟨loaded, hload, hfacts⟩ := Result.exists_ok_of_any hfacts
  obtain ⟨hordered, hzero, hvalues⟩ := of_decide_eq_true hfacts
  have hbefore : ∀ front call, before = front ++ [call] →
      call.refreshes (loaded.run front) = true := by
    intro front call hsplit
    have hlast : before.getLast? = some call := by rw [hsplit, List.getLast?_concat]
    cases hlast
    rfl
  exact ⟨loaded, hload, hvalues, settled_run hload hbefore after hzero hordered⟩

/-- A text keeps the sign that a zero had before a write. -/
theorem not_settled_of_zero :
    ∃ loaded, load numberDocument {} = .ok loaded ∧
      let content := (loaded.run [.setNamed "x" (.float .negZero)]).scene.content
      loaded.scene.content.store.Ordered loaded.scene.content.derived ∧
      content.store.Ordered content.derived ∧
      content.store.slots.map (·.value) = [.float .negZero, .text "0"] ∧
      content.derived.map (·.recipe.value content.store) = [.text "-0"] ∧
      ¬content.store.Settled content.derived := by
  have hfacts : (load numberDocument {}).toOption.any (fun loaded => decide (
      let content := (loaded.run [.setNamed "x" (.float .negZero)]).scene.content
      loaded.scene.content.store.Ordered loaded.scene.content.derived ∧
      content.store.Ordered content.derived ∧
      content.store.slots.map (·.value) = [.float .negZero, .text "0"] ∧
      content.derived.map (·.recipe.value content.store) = [.text "-0"] ∧
      ∃ d ∈ content.derived,
        (content.store.get d.id).toOption ≠ some (d.recipe.value content.store))) = true := by
    decide +kernel
  obtain ⟨loaded, hload, hfacts⟩ := Result.exists_ok_of_any hfacts
  obtain ⟨hloaded, hordered, hvalues, hrecipes, d, hd, hne⟩ := of_decide_eq_true hfacts
  refine ⟨loaded, hload, hloaded, hordered, hvalues, hrecipes, fun hsettled => hne ?_⟩
  rw [hsettled d hd]
  rfl

end Document

end Panel
