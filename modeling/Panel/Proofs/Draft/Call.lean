import Panel.Draft
import Panel.Proofs.Result
import Panel.Proofs.Store.Allocation

/-!
# Calls of the author

An author changes a draft in place, call by call.  What a call has changed before it fails stays
changed, unless every check comes before the first change.  `Draft.Writing` is such calls, and each
of them does what the function of its name in `Draft` says: it succeeds with the new draft, or fails
with the draft as it was.
-/

namespace Panel

namespace Draft

/-! ## Changes in place -/

/-- Changing a draft in place, where a failure leaves the draft as far as it has come. -/
abbrev Writing := EStateM EncodeError Draft

namespace Writing

def check (op : Opcode) : Writing Unit := fun d =>
  match d.check op with
  | .ok () => .ok () d
  | .error error => .error error d

def append (op : Operation) : Writing Unit :=
  modify fun d => { d with operations := d.operations ++ [op] }

def push (op : Operation) : Writing Unit := do
  check op.opcode
  append op

def declare (value : Value) : Writing VariableId :=
  modifyGet fun d => ((d.store.declare value).1, { d with store := (d.store.declare value).2 })

def declareMutable (value : Value) : Writing VariableId :=
  modifyGet fun d =>
    ((d.store.declareMutable value).1, { d with store := (d.store.declareMutable value).2 })

def constant (value : Value) : Writing VariableId := do
  let before := (← get).store.size
  check value.kind.opcode
  let id ← declare value
  if before < (← get).store.size then
    append (.value id value)
  return id

def addVariable (value : Value) : Writing VariableId := do
  check value.kind.opcode
  let id ← declareMutable value
  append (.value id value)
  return id

def derive (recipe : Recipe) : Writing VariableId := do
  check recipe.opcode
  let id ← declareMutable (.default recipe.kind)
  append (.derived ⟨id, recipe⟩)
  return id

def component (kind : ComponentKind) : Writing ComponentId := do
  let id : ComponentId := ⟨(← get).nextComponent⟩
  push (.component id kind)
  modify fun d => { d with nextComponent := d.nextComponent + 1 }
  return id

def action (effect : Effect) : Writing ActionId := do
  let id : ActionId := ⟨(← get).nextAction⟩
  push (.action ⟨id, effect⟩)
  modify fun d => { d with nextAction := d.nextAction + 1 }
  return id

end Writing

/-- A result with the draft after it: the new one, or the old one after a failure. -/
def settle {α : Type} (d : Draft) :
    Except EncodeError (α × Draft) → EStateM.Result EncodeError Draft α
  | .ok (a, e) => .ok a e
  | .error error => .error error d

namespace Writing

section

variable {d : Draft} {error : EncodeError}

theorem get_eq (d : Draft) : (get : Writing Draft) d = .ok d d := rfl

theorem check_of_ok {op : Opcode} (h : d.check op = .ok ()) : check op d = .ok () d := by
  rw [check, h]

theorem check_of_error {op : Opcode} (h : d.check op = .error error) :
    check op d = .error error d := by
  rw [check, h]

end

theorem push_eq (d : Draft) (op : Operation) :
    push op d = d.settle ((d.push op).map fun e => ((), e)) := by
  unfold Draft.push
  cases hcheck : d.check op.opcode with
  | error error => exact Result.run_bind_of_error (check_of_error hcheck)
  | ok _ => exact Result.run_bind_of_ok (check_of_ok hcheck)

theorem constant_eq (d : Draft) (value : Value) :
    constant value d = d.settle (d.constant value) := by
  refine (Result.run_bind_of_ok (get_eq d)).trans ?_
  unfold Draft.constant
  cases hcheck : d.check value.kind.opcode with
  | error error => exact Result.run_bind_of_error (check_of_error hcheck)
  | ok _ =>
      refine (Result.run_bind_of_ok (check_of_ok hcheck)).trans ?_
      show (if d.store.size < (d.store.declare value).2.size then _ else _ : Writing VariableId) _ =
        d.settle (if d.store.size < (d.store.declare value).2.size then _ else _)
      split <;> rfl

theorem addVariable_eq (d : Draft) (value : Value) :
    addVariable value d = d.settle (d.addVariable value) := by
  unfold Draft.addVariable
  cases hcheck : d.check value.kind.opcode with
  | error error => exact Result.run_bind_of_error (check_of_error hcheck)
  | ok _ => exact Result.run_bind_of_ok (check_of_ok hcheck)

theorem derive_eq (d : Draft) (recipe : Recipe) :
    derive recipe d = d.settle (d.derive recipe) := by
  unfold Draft.derive
  cases hcheck : d.check recipe.opcode with
  | error error => exact Result.run_bind_of_error (check_of_error hcheck)
  | ok _ => exact Result.run_bind_of_ok (check_of_ok hcheck)

theorem component_eq (d : Draft) (kind : ComponentKind) :
    component kind d = d.settle (d.component kind) := by
  have hpush := push_eq d (.component ⟨d.nextComponent⟩ kind)
  refine (Result.run_bind_of_ok (get_eq d)).trans ?_
  unfold Draft.component
  dsimp only
  cases hpushed : d.push (.component ⟨d.nextComponent⟩ kind) with
  | error error =>
      rw [hpushed] at hpush
      exact Result.run_bind_of_error hpush
  | ok pushed =>
      rw [hpushed] at hpush
      exact Result.run_bind_of_ok hpush

theorem action_eq (d : Draft) (effect : Effect) :
    action effect d = d.settle (d.action effect) := by
  have hpush := push_eq d (.action ⟨⟨d.nextAction⟩, effect⟩)
  refine (Result.run_bind_of_ok (get_eq d)).trans ?_
  unfold Draft.action
  dsimp only
  cases hpushed : d.push (.action ⟨⟨d.nextAction⟩, effect⟩) with
  | error error =>
      rw [hpushed] at hpush
      exact Result.run_bind_of_error hpush
  | ok pushed =>
      rw [hpushed] at hpush
      exact Result.run_bind_of_ok hpush

end Writing

end Draft

/-! ## Calls -/

/-- A call of the author.  The calls for single kinds of constants, derived variables, components
and modifiers are each one of these. -/
inductive DraftCall where
  | constant (value : Value)
  | addVariable (value : Value)
  | derive (recipe : Recipe)
  | name (id : VariableId) (text : String)
  | component (kind : ComponentKind)
  | endContainer
  | modifier (m : Modifier)
  | action (effect : Effect)
deriving DecidableEq, Repr

/-- What the author gets back. -/
inductive DraftAnswer where
  | variable (id : VariableId)
  | component (id : ComponentId)
  | action (id : ActionId)
  | done
deriving DecidableEq, Repr

/-- The call, as it changes a draft in place. -/
def DraftCall.write : DraftCall → Draft.Writing DraftAnswer
  | constant value => .variable <$> Draft.Writing.constant value
  | addVariable value => .variable <$> Draft.Writing.addVariable value
  | derive recipe => .variable <$> Draft.Writing.derive recipe
  | name id text => (fun _ => .done) <$> Draft.Writing.push (.name id text)
  | component kind => .component <$> Draft.Writing.component kind
  | endContainer => (fun _ => .done) <$> Draft.Writing.push .containerEnd
  | modifier m => (fun _ => .done) <$> Draft.Writing.push (.modifier m)
  | action effect => .action <$> Draft.Writing.action effect

namespace Draft

variable {d e : Draft} {call : DraftCall}

/-- The answer to a call with the new draft, or a refusal. -/
def request (d : Draft) : DraftCall → Except EncodeError (DraftAnswer × Draft)
  | .constant value => (d.constant value).map (Prod.map .variable id)
  | .addVariable value => (d.addVariable value).map (Prod.map .variable id)
  | .derive recipe => (d.derive recipe).map (Prod.map .variable id)
  | .name id text => (d.name id text).map fun e => (.done, e)
  | .component kind => (d.component kind).map (Prod.map .component id)
  | .endContainer => d.endContainer.map fun e => (.done, e)
  | .modifier m => (d.modifier m).map fun e => (.done, e)
  | .action effect => (d.action effect).map (Prod.map .action id)

theorem map_of_settle {α β : Type} {x : Writing α} {result : Except EncodeError (α × Draft)}
    (h : x d = d.settle result) (f : α → β) :
    (f <$> x) d = d.settle (result.map (Prod.map f id)) := by
  show EStateM.map f x d = _
  rw [EStateM.map, h]
  cases result <;> rfl

theorem push_done (d : Draft) (op : Operation) :
    ((fun _ => DraftAnswer.done) <$> Writing.push op) d =
      d.settle ((d.push op).map fun e => (.done, e)) := by
  refine (map_of_settle (Writing.push_eq d op) _).trans ?_
  cases d.push op <;> rfl

/-- A call that is refused leaves the draft as it was, although drafts are changed in place. -/
theorem write_eq (d : Draft) (call : DraftCall) : call.write d = d.settle (d.request call) := by
  cases call with
  | constant value => exact map_of_settle (Writing.constant_eq d value) _
  | addVariable value => exact map_of_settle (Writing.addVariable_eq d value) _
  | derive recipe => exact map_of_settle (Writing.derive_eq d recipe) _
  | name id text => exact push_done d (.name id text)
  | component kind => exact map_of_settle (Writing.component_eq d kind) _
  | endContainer => exact push_done d .containerEnd
  | modifier m => exact push_done d (.modifier m)
  | action effect => exact map_of_settle (Writing.action_eq d effect) _

theorem eq_of_write_error {error : EncodeError} (h : call.write d = .error error e) : e = d := by
  rw [write_eq] at h
  cases hrequest : d.request call with
  | ok result =>
      rw [hrequest] at h
      contradiction
  | error refusal =>
      rw [hrequest] at h
      cases h
      rfl

/-- The draft after a call, whether it is refused or not. -/
def perform (d : Draft) (call : DraftCall) : Draft :=
  match call.write d with
  | .ok _ e => e
  | .error _ e => e

/-- The draft after some calls. -/
def run (d : Draft) (calls : List DraftCall) : Draft := calls.foldl perform d

theorem run_concat (d : Draft) (calls : List DraftCall) (call : DraftCall) :
    d.run (calls ++ [call]) = (d.run calls).perform call := by
  rw [run, List.foldl_concat, run]

/-- The answer to a call, unless the call is refused. -/
def answer? (d : Draft) (call : DraftCall) : Option DraftAnswer :=
  match call.write d with
  | .ok answer _ => some answer
  | .error _ _ => none

/-- A call is refused and changes nothing, or it is accepted and answered. -/
theorem answer?_cases (d : Draft) (call : DraftCall) :
    d.perform call = d ∧ d.answer? call = none ∨
      ∃ answer, d.answer? call = some answer ∧ d.request call = .ok (answer, d.perform call) := by
  have hwrite := d.write_eq call
  cases hrequest : d.request call with
  | error error =>
      left
      rw [perform, answer?, hwrite, hrequest, settle]
      exact ⟨rfl, rfl⟩
  | ok result =>
      right
      refine ⟨result.1, ?_⟩
      rw [perform, answer?, hwrite, hrequest, settle]
      exact ⟨rfl, rfl⟩

theorem perform_cases (d : Draft) (call : DraftCall) :
    d.perform call = d ∨ ∃ answer, d.request call = .ok (answer, d.perform call) := by
  rcases d.answer?_cases call with ⟨hrefused, -⟩ | ⟨answer, -, haccepted⟩
  · exact .inl hrefused
  · exact .inr ⟨answer, haccepted⟩

/-! ## What an accepted call does -/

/-- The draft with a slot under a new name, and the operation that declares it. -/
def declaring (d : Draft) (op : Operation) (slot : Slot) : Draft :=
  { d with store := d.store.allocate.2.push slot, operations := d.operations ++ [op] }

theorem check_eq_ok {op : Opcode} : d.check op = .ok () ↔ d.profile.allows op.code = true := by
  unfold check
  split <;> simp [*]

theorem push_eq_ok {op : Operation} :
    d.push op = .ok e ↔ d.profile.allows op.opcode.code = true ∧
      e = { d with operations := d.operations ++ [op] } := by
  rw [push, Result.bind_eq_ok]
  constructor
  · rintro ⟨_, hcheck, ⟨⟩⟩
    exact ⟨check_eq_ok.1 hcheck, rfl⟩
  · rintro ⟨hallows, rfl⟩
    exact ⟨(), check_eq_ok.2 hallows, rfl⟩

theorem constant_eq_ok {value : Value} {id : VariableId} :
    d.constant value = .ok (id, e) ↔ d.profile.allows value.kind.opcode.code = true ∧
      (d.store.interned? value = some id ∧ e = d ∨
        d.store.interned? value = none ∧ id = d.store.allocate.1 ∧
          e = d.declaring (.value id value) ⟨id, value, true⟩) := by
  rw [constant, Result.bind_eq_ok]
  cases hinterned : d.store.interned? value with
  | some shared =>
      rw [Store.declare_of_some hinterned]
      dsimp only
      rw [if_neg (Nat.lt_irrefl _)]
      constructor
      · rintro ⟨_, hcheck, ⟨⟩⟩
        exact ⟨check_eq_ok.1 hcheck, .inl ⟨rfl, rfl⟩⟩
      · rintro ⟨hallows, ⟨⟨⟩, rfl⟩ | ⟨⟨⟩, -⟩⟩
        exact ⟨(), check_eq_ok.2 hallows, rfl⟩
  | none =>
      rw [Store.declare_of_none hinterned]
      dsimp only
      rw [if_pos (Store.size_lt_push _ _)]
      constructor
      · rintro ⟨_, hcheck, ⟨⟩⟩
        exact ⟨check_eq_ok.1 hcheck, .inr ⟨rfl, rfl, rfl⟩⟩
      · rintro ⟨hallows, ⟨⟨⟩, -⟩ | ⟨-, rfl, rfl⟩⟩
        exact ⟨(), check_eq_ok.2 hallows, rfl⟩

theorem addVariable_eq_ok {value : Value} {id : VariableId} :
    d.addVariable value = .ok (id, e) ↔ d.profile.allows value.kind.opcode.code = true ∧
      id = d.store.allocate.1 ∧ e = d.declaring (.value id value) ⟨id, value, false⟩ := by
  rw [addVariable, Result.bind_eq_ok]
  constructor
  · rintro ⟨_, hcheck, ⟨⟩⟩
    exact ⟨check_eq_ok.1 hcheck, rfl, rfl⟩
  · rintro ⟨hallows, rfl, rfl⟩
    exact ⟨(), check_eq_ok.2 hallows, rfl⟩

theorem derive_eq_ok {recipe : Recipe} {id : VariableId} :
    d.derive recipe = .ok (id, e) ↔ d.profile.allows recipe.opcode.code = true ∧
      id = d.store.allocate.1 ∧
      e = d.declaring (.derived ⟨id, recipe⟩) ⟨id, .default recipe.kind, false⟩ := by
  rw [derive, Result.bind_eq_ok]
  constructor
  · rintro ⟨_, hcheck, ⟨⟩⟩
    exact ⟨check_eq_ok.1 hcheck, rfl, rfl⟩
  · rintro ⟨hallows, rfl, rfl⟩
    exact ⟨(), check_eq_ok.2 hallows, rfl⟩

theorem component_eq_ok {kind : ComponentKind} {id : ComponentId} :
    d.component kind = .ok (id, e) ↔ d.profile.allows kind.opcode.code = true ∧
      id = ⟨d.nextComponent⟩ ∧ e = { d with
        operations := d.operations ++ [.component id kind]
        nextComponent := d.nextComponent + 1 } := by
  rw [component, Result.bind_eq_ok]
  constructor
  · rintro ⟨_, hpush, ⟨⟩⟩
    obtain ⟨hallows, rfl⟩ := push_eq_ok.1 hpush
    exact ⟨hallows, rfl, rfl⟩
  · rintro ⟨hallows, rfl, rfl⟩
    exact ⟨_, push_eq_ok.2 ⟨hallows, rfl⟩, rfl⟩

theorem action_eq_ok {effect : Effect} {id : ActionId} :
    d.action effect = .ok (id, e) ↔ d.profile.allows effect.opcode.code = true ∧
      id = ⟨d.nextAction⟩ ∧ e = { d with
        operations := d.operations ++ [.action ⟨id, effect⟩]
        nextAction := d.nextAction + 1 } := by
  rw [action, Result.bind_eq_ok]
  constructor
  · rintro ⟨_, hpush, ⟨⟩⟩
    obtain ⟨hallows, rfl⟩ := push_eq_ok.1 hpush
    exact ⟨hallows, rfl, rfl⟩
  · rintro ⟨hallows, rfl, rfl⟩
    exact ⟨_, push_eq_ok.2 ⟨hallows, rfl⟩, rfl⟩

end Draft

end Panel
