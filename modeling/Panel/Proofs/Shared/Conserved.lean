import Panel.Proofs.Document.Invalidation
import Panel.Proofs.Document.OnDemand
import Panel.Proofs.Shared.Serial

/-!
# Nothing is lost between clients

Touches put records and requests to the host into two queues.  Frames take the records and drains
take the requests, whichever client makes them.  What has been taken and what is still queued are
together what touches have put there: each record once and each request once, in the order of the
touches.
-/

namespace Panel

variable {component : ComponentId} {event : TouchEvent}

/-! ## What a touch puts there -/

/-- The actions that a component runs for a trigger, one after the other. -/
def ComponentTree.bound (t : ComponentTree) (component : ComponentId) (trigger : TouchTrigger) :
    List ActionId :=
  match t.indexOf? component with
  | some index => t.actionsFor index trigger
  | none => []

/-- What the effect asks of the host. -/
def Effect.request? : Effect → Option UInt32
  | host request => some request
  | _ => none

/-- An effect that asks the host succeeds whatever the variables are, and no other effect comes to a
request. -/
theorem Effect.apply_eq_host {effect : Effect} {s t : Store} {request : UInt32} :
    effect.apply s = .ok (.host request, t) ↔ effect.request? = some request ∧ t = s := by
  have hwriting (target : VariableId) (value : Value) :
      writing s target value ≠ .ok (.host request, t) := by
    intro h
    obtain ⟨_, -, ⟨⟩⟩ := Result.bind_eq_ok.1 h
  cases effect with
  | host number => simp [apply, request?, eq_comm]
  | setInteger target value => simp [apply, request?, hwriting]
  | setFloat target value => simp [apply, request?, hwriting]
  | copyText target text =>
      refine iff_of_false (fun h => ?_) (by simp [request?])
      obtain ⟨found, -, h⟩ := Result.bind_eq_ok.1 h
      exact hwriting target (.text found) h
  | copyInteger target expression =>
      refine iff_of_false (fun h => ?_) (by simp [request?])
      obtain ⟨found, -, h⟩ := Result.bind_eq_ok.1 h
      exact hwriting target (.int found.toInt32) h

namespace Content

/-- The request that an action makes, if it is one that asks the host. -/
def request? (content : Content) (component : ComponentId) (event : TouchEvent) (id : ActionId) :
    Option HostEvent := do
  let action ← content.action? id
  let request ← action.effect.request?
  return ⟨request, component, event.position?⟩

/-- The requests that a touch makes: one for each action asking the host that the component binds,
in the order in which they run. -/
def requests (content : Content) (component : ComponentId) (event : TouchEvent) : List HostEvent :=
  (content.tree.bound component event.trigger).filterMap (content.request? component event)

theorem hostEvents_runAction (content : Content) (run : ActionRun) (id : ActionId) :
    (content.runAction component event run id).hostEvents =
      run.hostEvents ++ (content.request? component event id).toList := by
  unfold runAction request?
  cases content.action? id with
  | none => simp
  | some action =>
      have hrequest (number : UInt32) : action.effect.request? = some number ↔
          action.effect.apply run.store = .ok (.host number, run.store) := by
        rw [Effect.apply_eq_host, and_iff_left rfl]
      cases happly : action.effect.apply run.store with
      | error e =>
          have hnone : action.effect.request? = none := by
            simpa [Option.eq_none_iff_forall_ne_some, happly] using hrequest
          simp [happly, hnone]
      | ok result =>
          obtain ⟨outcome, store⟩ := result
          cases outcome with
          | written target changed =>
              have hnone : action.effect.request? = none := by
                simpa [Option.eq_none_iff_forall_ne_some, happly] using hrequest
              simp [happly, hnone]
          | host number =>
              have hsome := (Effect.apply_eq_host.1 happly).1
              simp [happly, hsome]

theorem hostEvents_runActions (content : Content) (ids : List ActionId) :
    (content.runActions component event ids).hostEvents =
      ids.filterMap (content.request? component event) := by
  induction ids using List.reverseRecOn with
  | nil => rfl
  | append_singleton ids id ih =>
      rw [runActions, List.foldl_concat, hostEvents_runAction, ← runActions, ih,
        List.filterMap_append]
      cases hrequest : content.request? component event id <;> simp [hrequest]

end Content

namespace Document

variable {d e loaded : Document}

/-- The record of a touch on a component. -/
def record (d : Document) (component : ComponentId) (event : TouchEvent) : Invalidation :=
  d.scene.record component event (d.scene.content.tree.bound component event.trigger)

theorem touch_delivered (h : d.touch component event = (true, e)) :
    e = { d with
      scene := d.scene.deliver component event
        (d.scene.content.tree.bound component event.trigger) } := by
  obtain ⟨index, n, hindex, hnode, rfl⟩ := exists_deliver_of_touch h
  have hid : n.id = component := ComponentTree.id_of_indexOf? hindex hnode
  have hbound : d.scene.content.tree.bound component event.trigger =
      Modifiers.actionsFor n.modifiers event.trigger := by
    simp only [ComponentTree.bound, hindex, ComponentTree.actionsFor, hnode]
  rw [hid, hbound]

theorem touch_refused (h : d.touch component event = (false, e)) : e = d := by
  rcases d.touch_cases component event with htouch | ⟨_, _, _, _, _, htouch⟩
  · rw [h] at htouch
    exact congrArg Prod.snd htouch
  · rw [h] at htouch
    exact absurd (congrArg Prod.fst htouch) Bool.false_ne_true

/-- A write by the host may change who depends on what, but none of the queues. -/
theorem dispatcher_setNamed {name : String} {value : Value} {changed : Bool}
    (h : d.setNamed name value = .ok (changed, e)) : e.scene.dispatcher =
      { d.scene.dispatcher with dependencies := e.scene.dispatcher.dependencies } := by
  obtain ⟨id, store, -, -, rfl⟩ := setNamed_eq_ok.1 h
  cases changed with
  | false => rfl
  | true =>
      show (d.scene.changed id value.kind store).dispatcher = { d.scene.dispatcher with
        dependencies := (d.scene.changed id value.kind store).dispatcher.dependencies }
      unfold Scene.changed
      split <;> rfl

end Document

/-! ## What a call does to the queues -/

/-- The records that a client is given. -/
def ClientAnswer.takenRecords : ClientAnswer → List Invalidation
  | frame records _ => records
  | _ => []

/-- The requests that a client is given. -/
def ClientAnswer.takenRequests : ClientAnswer → List HostEvent
  | hostEvents events => events
  | _ => []

/-- The touch that a client makes and that, as it is told, was delivered. -/
def ClientCall.delivered? : ClientCall → ClientAnswer → Option (ComponentId × TouchEvent)
  | touch component event, .touched true => some (component, event)
  | _, _ => none

namespace Document

variable {d e loaded : Document}

/-- What a call takes from the queues and what a touch, if one was delivered, puts there. -/
structure Queues (d e : Document) (answer : ClientAnswer)
    (touch? : Option (ComponentId × TouchEvent)) : Prop where
  sequence : e.scene.dispatcher.sequence = d.scene.dispatcher.sequence + touch?.toList.length
  records : d.scene.dispatcher.pending ++ touch?.toList.map (fun t => d.record t.1 t.2) =
    answer.takenRecords ++ e.scene.dispatcher.pending
  requests : d.scene.dispatcher.hostEvents ++
      touch?.toList.flatMap (fun t => d.scene.content.requests t.1 t.2) =
    answer.takenRequests ++ e.scene.dispatcher.hostEvents

theorem queues_serve (d : Document) (call : ClientCall) :
    Queues d (d.serve call).2 (d.serve call).1 (call.delivered? (d.serve call).1) := by
  cases call with
  | touch component event =>
      rw [serve]
      cases htouch : d.touch component event with
      | mk delivered after =>
          cases delivered with
          | false =>
              obtain rfl := touch_refused htouch
              exact ⟨rfl, List.append_nil _, List.append_nil _⟩
          | true =>
              obtain rfl := touch_delivered htouch
              refine ⟨rfl, rfl, ?_⟩
              show _ = d.scene.dispatcher.hostEvents ++ (Content.runActions _ _ _ _).hostEvents
              rw [Content.hostEvents_runActions]
              exact congrArg _ (List.append_nil _)
  | renderFrame viewport textMeasure =>
      refine ⟨rfl, ?_, List.append_nil _⟩
      exact (List.append_nil _).trans (List.append_nil _).symm
  | takeHostEvents =>
      refine ⟨rfl, List.append_nil _, ?_⟩
      exact (List.append_nil _).trans (List.append_nil _).symm
  | setNamed name value =>
      rw [serve]
      cases hset : d.setNamed name value with
      | error e => exact ⟨rfl, List.append_nil _, List.append_nil _⟩
      | ok result =>
          obtain ⟨changed, after⟩ := result
          have hdispatcher := dispatcher_setNamed hset
          have hsequence := congrArg Dispatcher.sequence hdispatcher
          have hpending := congrArg Dispatcher.pending hdispatcher
          have hhostEvents := congrArg Dispatcher.hostEvents hdispatcher
          exact ⟨hsequence, (List.append_nil _).trans hpending.symm,
            (List.append_nil _).trans hhostEvents.symm⟩

end Document

/-! ## What all turns do to the queues -/

variable {Client : Type} {d e loaded : Document} {turn : Turn Client} {turns : List (Turn Client)}

namespace Turn

/-- The touch of the turn, if it was one and delivered. -/
def delivered? (turn : Turn Client) : Option (ComponentId × TouchEvent) :=
  turn.call.delivered? turn.answer

/-- The record that is to come of the turn. -/
def record? (turn : Turn Client) : Option Invalidation :=
  turn.delivered?.map fun t => turn.found.record t.1 t.2

theorem On.queues (h : turn.On d) :
    Document.Queues d (d.serve turn.call).2 turn.answer turn.delivered? := by
  rw [delivered?, h.2]
  exact d.queues_serve turn.call

end Turn

namespace Serial

/-- What is in a queue at first and what calls put there, is what calls take from it and what is
there in the end. -/
theorem conserves {α : Type} (queue : Document → List α) (put taken : Turn Client → List α)
    (h : Serial d turns e)
    (hturn : ∀ turn ∈ turns, turn.On turn.found →
      queue turn.found ++ put turn = taken turn ++ queue (turn.found.serve turn.call).2) :
    queue d ++ turns.flatMap put = turns.flatMap taken ++ queue e := by
  induction turns generalizing d with
  | nil =>
      rw [h]
      exact List.append_nil _
  | cons turn turns ih =>
      obtain ⟨⟨rfl, hanswer⟩, hrest⟩ := h
      rw [List.forall_mem_cons] at hturn
      calc queue turn.found ++ (turn :: turns).flatMap put
        _ = (queue turn.found ++ put turn) ++ turns.flatMap put := by
          rw [List.flatMap_cons, List.append_assoc]
        _ = taken turn ++ (queue (turn.found.serve turn.call).2 ++ turns.flatMap put) := by
          rw [hturn.1 ⟨rfl, hanswer⟩, List.append_assoc]
        _ = (turn :: turns).flatMap taken ++ queue e := by
          rw [ih hrest hturn.2, List.flatMap_cons, List.append_assoc]

/-- Every client finds a document that may have come of the one at first. -/
theorem follows (h : Serial d turns e) (hd : Document.Follows loaded d)
    (hloaded : loaded.Pristine) :
    ∀ turn ∈ turns, Document.Follows loaded turn.found := by
  induction turns generalizing d with
  | nil => exact fun _ hturn => absurd hturn List.not_mem_nil
  | cons turn turns ih =>
      obtain ⟨⟨rfl, -⟩, hrest⟩ := h
      rw [Document.serve_eq_perform] at hrest
      exact List.forall_mem_cons.2 ⟨hd, ih hrest (hd.perform hloaded _)⟩

theorem records_eq (h : Serial d turns e) :
    d.scene.dispatcher.pending ++ turns.filterMap Turn.record? =
      turns.flatMap (fun turn => turn.answer.takenRecords) ++ e.scene.dispatcher.pending := by
  rw [List.filterMap_eq_flatMap_toList]
  apply h.conserves fun d => d.scene.dispatcher.pending
  intro turn _ hturn
  rw [← hturn.queues.records, Turn.record?]
  cases turn.delivered? <;> rfl

theorem requests_eq (h : Serial d turns e) (hd : Document.Follows loaded d)
    (hloaded : loaded.Pristine) :
    d.scene.dispatcher.hostEvents ++ (turns.filterMap Turn.delivered?).flatMap
        (fun t => loaded.scene.content.requests t.1 t.2) =
      turns.flatMap (fun turn => turn.answer.takenRequests) ++ e.scene.dispatcher.hostEvents := by
  rw [List.filterMap_eq_flatMap_toList, List.flatMap_assoc]
  apply h.conserves fun d => d.scene.dispatcher.hostEvents
  intro turn hmem hturn
  have hcontent := (h.follows hd hloaded turn hmem).content
  rw [← hturn.queues.requests, hcontent]
  rfl

/-- The records are numbered from where the document was, without gaps. -/
theorem sequence_records (h : Serial d turns e) :
    (turns.filterMap Turn.record?).map (·.sequence) =
      List.range' (d.scene.dispatcher.sequence + 1) (turns.filterMap Turn.delivered?).length := by
  induction turns generalizing d with
  | nil => rfl
  | cons turn turns ih =>
      have hsequence := h.1.queues.sequence
      have hrest := ih h.2
      rw [hsequence] at hrest
      obtain ⟨⟨rfl, -⟩, -⟩ := h
      rw [List.filterMap_cons, List.filterMap_cons, Turn.record?]
      cases hdelivered : turn.delivered? with
      | none => simpa [hdelivered] using hrest
      | some touch =>
          rw [hdelivered] at hrest
          simp only [Option.map_some, List.map_cons, List.length_cons, List.range'_succ]
          exact congrArg _ hrest

theorem touches_records (turns : List (Turn Client)) :
    (turns.filterMap Turn.record?).map (fun r => (r.component, r.trigger)) =
      (turns.filterMap Turn.delivered?).map fun t => (t.1, t.2.trigger) := by
  have hrecord : (Turn.record? : Turn Client → _) = fun turn =>
      turn.delivered?.map fun t => turn.found.record t.1 t.2 := rfl
  rw [hrecord, List.map_filterMap, List.map_filterMap]
  congr 1
  funext turn
  cases turn.delivered? <;> rfl

end Serial

/-- However the calls of clients are mixed, no record and no request is lost, made twice or put out
of order.  The records that frames have returned, with those still pending, are one for each touch
that was reported as delivered, numbered from one.  The requests that drains have returned, with
those still queued, are those that the touches have made. -/
theorem Shared.queues_conserved [DecidableEq Client] {bytes : List UInt8} {config : Config}
    (h : Document.load bytes config = .ok loaded) {s : Shared Client}
    (hreachable : Reachable loaded s) :
    let records := s.log.flatMap (fun turn => turn.answer.takenRecords) ++
      s.document.scene.dispatcher.pending
    let requests := s.log.flatMap (fun turn => turn.answer.takenRequests) ++
      s.document.scene.dispatcher.hostEvents
    let touches := s.log.filterMap Turn.delivered?
    records = s.log.filterMap Turn.record? ∧
    records.map (·.sequence) = List.range' 1 touches.length ∧
    records.map (fun r => (r.component, r.trigger)) = touches.map (fun t => (t.1, t.2.trigger)) ∧
    requests = touches.flatMap fun t => loaded.scene.content.requests t.1 t.2 := by
  intro records requests touches
  have hloaded := Document.pristine_of_load h
  have hserial := hreachable.orderly.serial
  have hrecords : records = s.log.filterMap Turn.record? := by
    have hconserved := hserial.records_eq
    rw [hloaded.scene_eq] at hconserved
    exact hconserved.symm
  have hrequests : requests = touches.flatMap fun t => loaded.scene.content.requests t.1 t.2 := by
    have hconserved := hserial.requests_eq hloaded.follows hloaded
    rw [hloaded.scene_eq] at hconserved
    exact hconserved.symm
  refine ⟨hrecords, ?_, ?_, hrequests⟩
  · rw [hrecords, hserial.sequence_records, hloaded.scene_eq]
    rfl
  · rw [hrecords]
    exact Serial.touches_records s.log

/-- Two clients, and a component that asks the host, writes a variable and asks the host again. -/
theorem Shared.queues_conserved_two :
    let bytes : List UInt8 := [0, 3, 0, 3, 0, 0, 0, 70, 1, 0, 0, 0, 1, 0, 0, 0, 0,
      6, 0, 0, 0, 1, 0, 0, 0, 1, 110, 64, 0, 0, 0, 1, 0, 0, 0, 1, 0, 0, 0, 5,
      68, 0, 0, 0, 2, 0, 0, 0, 7, 34, 0, 0, 0, 1, 0, 0,
      54, 0, 0, 3, 0, 0, 0, 2, 0, 0, 0, 1, 0, 0, 0, 2, 36, 0, 0, 0, 2, 47]
    let frame : ClientCall := .renderFrame .empty fun _ _ => .empty
    let down : ClientCall := .touch ⟨2⟩ (.down .origin)
    let calls : List (Bool × ClientCall) := [(true, frame), (false, down), (true, .touch ⟨2⟩ .up),
      (true, down), (false, .setNamed "n" (.int 2)), (true, frame), (false, .takeHostEvents),
      (false, down)]
    ∃ loaded, Document.load bytes {} = .ok loaded ∧
      let s : Shared Bool := (Shared.new loaded).inTurn calls
      Reachable loaded s ∧ s.document.scene.dispatcher.pending.length = 1 ∧
      (s.log.flatMap (fun turn => turn.answer.takenRecords) ++
        s.document.scene.dispatcher.pending).map (·.sequence) = [1, 2, 3] ∧
      s.document.scene.dispatcher.hostEvents.length = 2 ∧
      s.log.flatMap (fun turn => turn.answer.takenRequests) ++
        s.document.scene.dispatcher.hostEvents =
          List.replicate 6 ⟨7, ⟨2⟩, some .origin⟩ := by
  intro bytes frame down calls
  have hfacts : (Document.load bytes {}).toOption.any (fun loaded => decide (
      let s : Shared Bool := (Shared.new loaded).inTurn calls
      s.document.scene.dispatcher.pending.length = 1 ∧
      s.document.scene.dispatcher.hostEvents.length = 2 ∧
      s.log.filterMap Turn.delivered? = List.replicate 3 (⟨2⟩, .down .origin) ∧
      loaded.scene.content.requests ⟨2⟩ (.down .origin) =
        List.replicate 2 ⟨7, ⟨2⟩, some .origin⟩)) = true := by
    decide +kernel
  obtain ⟨loaded, hload, hfacts⟩ := Result.exists_ok_of_any hfacts
  obtain ⟨hpending, hqueued, htouches, hrequests⟩ := of_decide_eq_true hfacts
  have hreachable := reachable_inTurn loaded calls
  obtain ⟨-, hsequence, -, hconserved⟩ := queues_conserved hload hreachable
  rw [htouches] at hsequence hconserved
  refine ⟨loaded, hload, hreachable, hpending, hsequence, hqueued, ?_⟩
  rw [hconserved, List.flatMap_replicate, hrequests]
  rfl

end Panel
