import Panel.Proofs.Document.Call
import Panel.Shared

/-!
# One client at a time

Clients work on the document between taking the lock and giving it back, and in the meantime others
ask for it.  Nevertheless the calls are done one after the other: each finds the document as the one
before has left it, and nothing that a client makes of the document is overwritten by another.
-/

namespace Panel

variable {Client : Type} {d e : Document} {turn : Turn Client} {turns : List (Turn Client)}

/-- The same call, as a host makes it that has the document to itself. -/
def ClientCall.alone : ClientCall → HostCall
  | touch component event => .touch component event
  | renderFrame viewport textMeasure => .update viewport textMeasure
  | takeHostEvents => .takeHostEvents
  | setNamed name value => .setNamed name value

theorem Document.serve_eq_perform (d : Document) (call : ClientCall) :
    (d.serve call).2 = d.perform call.alone := by
  cases call with
  | setNamed name value =>
      rw [serve, ClientCall.alone, perform]
      cases d.setNamed name value <;> rfl
  | _ => rfl

/-- The call found this document, and was answered by it. -/
def Turn.On (turn : Turn Client) (d : Document) : Prop :=
  turn.found = d ∧ turn.answer = (d.serve turn.call).1

/-- Calls one after the other, from one document to another. -/
def Serial (d : Document) : List (Turn Client) → Document → Prop
  | [], e => e = d
  | turn :: turns, e => turn.On d ∧ Serial (d.serve turn.call).2 turns e

theorem serial_concat :
    Serial d (turns ++ [turn]) e ↔
      Serial d turns turn.found ∧ turn.answer = (turn.found.serve turn.call).1 ∧
        e = (turn.found.serve turn.call).2 := by
  induction turns generalizing d with
  | nil =>
      constructor
      · rintro ⟨⟨rfl, hanswer⟩, hlast⟩
        exact ⟨rfl, hanswer, hlast⟩
      · rintro ⟨hfound, hanswer, rfl⟩
        obtain rfl : turn.found = d := hfound
        exact ⟨⟨rfl, hanswer⟩, rfl⟩
  | cons first turns ih => simp only [List.cons_append, Serial, ih, and_assoc]

theorem Serial.eq_run (h : Serial d turns e) :
    e = d.run (turns.map fun turn => turn.call.alone) := by
  induction turns generalizing d with
  | nil => exact h
  | cons turn turns ih =>
      rw [List.map_cons, Document.run_cons, ← Document.serve_eq_perform]
      exact ih h.2

namespace Shared

variable {s t : Shared Client}

/-- The calls that are done were done one after the other, and a client that works on the document
has the lock and the document as it is. -/
structure Orderly (start : Document) (s : Shared Client) : Prop where
  serial : Serial start s.log s.document
  working : ∀ client call found, s.activity client = .working call found →
    s.holder = some client ∧ found = s.document

theorem Orderly.new (start : Document) : Orderly start (.new start : Shared Client) where
  serial := rfl
  working := nofun

variable [DecidableEq Client]

theorem Orderly.step (h : Orderly d s) (hstep : Step s t) : Orderly d t := by
  cases hstep with
  | @ask client call hidle =>
      refine ⟨h.serial, fun other c found hworking => ?_⟩
      by_cases hother : other = client
      · subst hother
        simp [ask] at hworking
      · apply h.working other c found
        simpa [ask, hother] using hworking
  | @lock client call hwaiting hfree =>
      refine ⟨h.serial, fun other c found hworking => ?_⟩
      by_cases hother : other = client
      · subst hother
        simp only [lock, Function.update_self, Activity.working.injEq] at hworking
        exact ⟨rfl, hworking.2.symm⟩
      · simp only [lock, Function.update_of_ne hother] at hworking
        have hheld := (h.working other c found hworking).1
        rw [hfree] at hheld
        contradiction
  | @unlock client call found hworking =>
      obtain ⟨hheld, rfl⟩ := h.working client call found hworking
      refine ⟨serial_concat.2 ⟨h.serial, rfl, rfl⟩, fun other c found hother => ?_⟩
      by_cases hne : other = client
      · subst hne
        simp [unlock] at hother
      -- nobody else can be working, because only one client has the lock
      · simp only [unlock, Function.update_of_ne hne] at hother
        have hheld' := (h.working other c found hother).1
        rw [hheld] at hheld'
        exact absurd (Option.some.inj hheld').symm hne

/-- However the steps of the clients are mixed, their calls are done one after the other. -/
theorem Reachable.orderly (h : Reachable d s) : Orderly d s := by
  induction h with
  | refl => exact .new d
  | tail _ hstep ih => exact ih.step hstep

/-- However the steps of the clients are mixed, the document is what a host makes of it that has it
to itself. -/
theorem Reachable.document_eq_run (h : Reachable d s) :
    s.document = d.run (s.log.map fun turn => turn.call.alone) :=
  h.orderly.serial.eq_run

/-- No two clients work on the document at a time. -/
theorem Reachable.eq_of_working (h : Reachable d s) {a b : Client} {call call' : ClientCall}
    {found found' : Document} (ha : s.activity a = .working call found)
    (hb : s.activity b = .working call' found') : a = b := by
  have hheld := (h.orderly.working a call found ha).1
  rw [(h.orderly.working b call' found' hb).1] at hheld
  exact (Option.some.inj hheld).symm

/-! ## Every order is possible -/

/-- Nobody is doing anything. -/
def Quiet (s : Shared Client) : Prop := s.holder = none ∧ ∀ client, s.activity client = .idle

/-- A client calls while the others do nothing. -/
def alone (s : Shared Client) (client : Client) (call : ClientCall) : Shared Client where
  document := (s.document.serve call).2
  holder := none
  activity := s.activity
  log := s.log ++ [⟨client, call, s.document, (s.document.serve call).1⟩]

theorem steps_alone (h : s.Quiet) (client : Client) (call : ClientCall) :
    Relation.ReflTransGen Step s (s.alone client call) := by
  have hask : Step s (s.ask client call) := .ask call (h.2 client)
  have hlock : Step (s.ask client call) ((s.ask client call).lock client call) :=
    .lock (by simp [ask]) h.1
  have hunlock : Step ((s.ask client call).lock client call)
      (((s.ask client call).lock client call).unlock client call s.document) :=
    .unlock (by simp [ask, lock])
  have heq : ((s.ask client call).lock client call).unlock client call s.document =
      s.alone client call := by
    have hidle : s.activity = Function.update s.activity client .idle := by
      rw [← h.2 client, Function.update_eq_self]
    simp only [unlock, lock, ask, alone, Function.update_idem]
    rw [← hidle]
  exact heq ▸ .tail (.tail (.single hask) hlock) hunlock

/-- Clients call one after the other. -/
def inTurn (s : Shared Client) (calls : List (Client × ClientCall)) : Shared Client :=
  calls.foldl (fun s call => s.alone call.1 call.2) s

theorem steps_inTurn (h : s.Quiet) (calls : List (Client × ClientCall)) :
    Relation.ReflTransGen Step s (s.inTurn calls) := by
  induction calls generalizing s with
  | nil => exact .refl
  | cons call calls ih =>
      have hquiet : (s.alone call.1 call.2).Quiet := ⟨rfl, h.2⟩
      exact (steps_alone h call.1 call.2).trans (ih hquiet)

theorem reachable_inTurn (d : Document) (calls : List (Client × ClientCall)) :
    Reachable d ((Shared.new d : Shared Client).inTurn calls) :=
  steps_inTurn ⟨rfl, fun _ => rfl⟩ calls

end Shared

end Panel
