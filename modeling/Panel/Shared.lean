import Mathlib.Logic.Function.Basic
import Mathlib.Logic.Relation
import Panel.Document

/-!
# Shared documents

Several clients play one document, each in its own thread.  A lock keeps their calls apart: a client
asks for it, waits until nobody holds it, works on the document as it finds it, and gives the lock
back together with what it has made of the document.

* `Document.serve` answers a call, `Shared.Step` is one step of one client;
* `Shared.log` remembers the calls in the order in which they were done, and what was answered.
-/

namespace Panel

/-- A call by one of several clients. -/
inductive ClientCall where
  | touch (component : ComponentId) (event : TouchEvent)
  | renderFrame (viewport : Size) (textMeasure : TextMeasure)
  | takeHostEvents
  | setNamed (name : String) (value : Value)

/-- What a client is answered. -/
inductive ClientAnswer where
  | touched (delivered : Bool)
  | frame (records : List Invalidation) (calls : List PaintCall)
  | hostEvents (events : List HostEvent)
  | written (changed : Except StoreError Bool)

/-- The answer to a call, and the document after it. -/
def Document.serve (d : Document) : ClientCall → ClientAnswer × Document
  | .touch component event =>
    let (delivered, d) := d.touch component event
    (.touched delivered, d)
  | .renderFrame viewport textMeasure =>
    let (records, calls, d) := d.renderFrame viewport textMeasure
    (.frame records calls, d)
  | .takeHostEvents =>
    let (events, d) := d.takeHostEvents
    (.hostEvents events, d)
  | .setNamed name value =>
    match d.setNamed name value with
    | .ok (changed, d) => (.written (.ok changed), d)
    | .error e => (.written (.error e), d)

/-- What a client is doing. -/
inductive Activity where
  | idle
  /-- It wants the lock. -/
  | waiting (call : ClientCall)
  /-- It works on the document that it has found. -/
  | working (call : ClientCall) (found : Document)

/-- A call that is done. -/
structure Turn (Client : Type) where
  client : Client
  call : ClientCall
  /-- The document as the client found it. -/
  found : Document
  answer : ClientAnswer

/-- A document with its lock and its clients. -/
structure Shared (Client : Type) where
  document : Document
  /-- Who has the lock. -/
  holder : Option Client
  activity : Client → Activity
  /-- The calls that are done, in the order in which they were done. -/
  log : List (Turn Client)

namespace Shared

variable {Client : Type}

/-- Nobody has done anything yet. -/
def new (document : Document) : Shared Client := ⟨document, none, fun _ => .idle, []⟩

variable [DecidableEq Client]

/-- A client asks for the lock. -/
def ask (s : Shared Client) (client : Client) (call : ClientCall) : Shared Client :=
  { s with activity := Function.update s.activity client (.waiting call) }

/-- A client takes the lock. -/
def lock (s : Shared Client) (client : Client) (call : ClientCall) : Shared Client :=
  { s with
    holder := some client
    activity := Function.update s.activity client (.working call s.document) }

/-- A client is done with the document that it has found. -/
def unlock (s : Shared Client) (client : Client) (call : ClientCall) (found : Document) :
    Shared Client where
  document := (found.serve call).2
  holder := none
  activity := Function.update s.activity client .idle
  log := s.log ++ [⟨client, call, found, (found.serve call).1⟩]

/-- One step of one client.  Which client it is, and what it calls, is open. -/
inductive Step : Shared Client → Shared Client → Prop
  | ask {s : Shared Client} {client : Client} (call : ClientCall)
    (hidle : s.activity client = .idle) : Step s (s.ask client call)
  | lock {s : Shared Client} {client : Client} {call : ClientCall}
    (hwaiting : s.activity client = .waiting call) (hfree : s.holder = none) :
    Step s (s.lock client call)
  | unlock {s : Shared Client} {client : Client} {call : ClientCall} {found : Document}
    (hworking : s.activity client = .working call found) : Step s (s.unlock client call found)

/-- What clients can come to by any steps of theirs, from a document that nobody has touched. -/
def Reachable (document : Document) (s : Shared Client) : Prop :=
  Relation.ReflTransGen Step (.new document) s

end Shared

end Panel
