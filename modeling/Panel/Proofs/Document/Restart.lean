import Panel.Proofs.Document.Call

/-!
# Restarting

A restart brings back everything that was loaded, whatever was called since, and refreshes the
derived variables once more.  So it brings back their values too, unless a recipe reads a variable
that is written after it.
-/

namespace Panel

/-- Loading has refreshed the derived variables, and once is enough if they are ordered. -/
theorem Document.Pristine.settled {d : Document} (h : d.Pristine)
    (hordered : d.scene.content.store.Ordered d.scene.content.derived) :
    d.scene.content.store.Settled d.scene.content.derived := by
  obtain ⟨content, hdeclares, -, hscene⟩ := h.scene
  rw [hscene] at hordered ⊢
  exact Store.settled_refreshed hdeclares ((Store.ordered_refreshed hdeclares).1 hordered)

theorem Document.Pristine.refresh_eq_self_iff {d : Document} (h : d.Pristine) :
    d.scene.refresh = d.scene ↔ d.scene.content.store.Settled d.scene.content.derived := by
  rw [← Store.refreshed_eq_self_iff h.declares]
  constructor
  · intro hrefresh
    exact congrArg (fun scene : Scene => scene.content.store) hrefresh
  · intro hstore
    rw [Scene.refresh, hstore]
    rfl

/-- Starting over from loaded content is refreshing it. -/
theorem Document.Pristine.start_content {d : Document} (h : d.Pristine) :
    Scene.start d.scene.content = d.scene.refresh := by
  have hdependencies : DependencyIndex.of
      { d.scene.content with store := d.scene.content.store.refreshed d.scene.content.derived } =
      .of d.scene.content :=
    DependencyIndex.of_congr _ (Store.getList_refreshed h.declares)
  calc
    Scene.start d.scene.content
      = ⟨{ d.scene.content with
          store := d.scene.content.store.refreshed d.scene.content.derived },
        .fresh d.scene.content.tree.size, .new (.of d.scene.content)⟩ :=
        congrArg (fun index => Scene.mk _ _ (.new index)) hdependencies
    _ = d.scene.refresh := by
        rw [Scene.refresh, h.scene_eq]
        rfl

namespace Document

/-- After any calls, a restart leaves what was loaded with its derived variables refreshed again.
The result is what was loaded exactly if they had settled, as they have if they are ordered. -/
theorem restart_run {bytes : List UInt8} {config : Config} {loaded : Document}
    (h : load bytes config = .ok loaded) (calls : List HostCall) :
    (loaded.run calls).restart = { loaded with
        scene := loaded.scene.refresh, viewport := (loaded.run calls).viewport } ∧
      ((loaded.run calls).restart.scene = loaded.scene ↔
        loaded.scene.content.store.Settled loaded.scene.content.derived) ∧
      (loaded.scene.content.store.Ordered loaded.scene.content.derived →
        (loaded.run calls).restart = { loaded with viewport := (loaded.run calls).viewport }) := by
  have hloaded := pristine_of_load h
  have hfollows := hloaded.follows.run hloaded calls
  have hcontent : { (loaded.run calls).scene.content with store := (loaded.run calls).initial } =
      loaded.scene.content := by
    rw [hfollows.content, hfollows.initial, hloaded.initial]
  have hrestart : (loaded.run calls).restart = { loaded with
      scene := loaded.scene.refresh, viewport := (loaded.run calls).viewport } := by
    rw [restart, hcontent, hloaded.start_content, hfollows.header, hfollows.profile,
      hfollows.initial]
  refine ⟨hrestart, ?_, ?_⟩
  · rw [hrestart]
    exact hloaded.refresh_eq_self_iff
  · intro hordered
    rw [hrestart, hloaded.refresh_eq_self_iff.2 (hloaded.settled hordered)]

theorem restart_run_successor :
    let bytes : List UInt8 := [0, 3, 0, 3, 0, 0, 0, 46, 1, 0, 0, 0, 1, 0, 0, 0, 5,
      6, 0, 0, 0, 1, 0, 0, 0, 1, 110, 16, 0, 0, 0, 2, 0, 3, 2, 0, 0, 0, 1, 0, 0, 0, 0, 1, 3, 0,
      34, 0, 0, 0, 1, 0, 0, 47]
    let calls : List HostCall := [.setNamed "n" (.int 8), .update .empty fun _ _ => .empty]
    ∃ loaded, load bytes {} = .ok loaded ∧
      loaded.scene.content.store.slots.map (·.value) = [.int 5, .int 6] ∧
      (loaded.run calls).scene.content.store.slots.map (·.value) = [.int 8, .int 9] ∧
      (loaded.run calls).restart = { loaded with viewport := (loaded.run calls).viewport } := by
  intro bytes calls
  have hfacts : (load bytes {}).toOption.any (fun loaded => decide (
      loaded.scene.content.store.Ordered loaded.scene.content.derived ∧
      loaded.scene.content.store.slots.map (·.value) = [.int 5, .int 6] ∧
      (loaded.run calls).scene.content.store.slots.map (·.value) = [.int 8, .int 9])) = true := by
    decide +kernel
  obtain ⟨loaded, hload, hfacts⟩ := Result.exists_ok_of_any hfacts
  obtain ⟨hordered, hbefore, hafter⟩ := of_decide_eq_true hfacts
  exact ⟨loaded, hload, hbefore, hafter, (restart_run hload calls).2.2 hordered⟩

/-- A recipe that adds one to its own variable counts how often it was refreshed. -/
theorem restart_run_counts :
    let bytes : List UInt8 := [0, 3, 0, 3, 0, 0, 0, 27, 16, 0, 0, 0, 1, 0, 3, 2, 0, 0, 0, 1,
      0, 0, 0, 0, 1, 3, 0, 34, 0, 0, 0, 1, 0, 0, 47]
    ∃ loaded, load bytes {} = .ok loaded ∧
      loaded.scene.content.store.slots.map (·.value) = [.int 1] ∧
      (loaded.run []).restart.scene.content.store.slots.map (·.value) = [.int 2] := by
  intro bytes
  have hfacts : (load bytes {}).toOption.any (fun loaded => decide (
      loaded.scene.content.store.slots.map (·.value) = [.int 1] ∧
      (loaded.run []).restart.scene.content.store.slots.map (·.value) = [.int 2])) = true := by
    decide +kernel
  obtain ⟨loaded, hload, hfacts⟩ := Result.exists_ok_of_any hfacts
  exact ⟨loaded, hload, of_decide_eq_true hfacts⟩

end Document

end Panel
