import Panel.Wire.Document

/-!
# Writing documents

A `Draft` is a document in the making.  It gives out the names of variables, components and actions,
keeps one variable for each constant, and takes only the operations of its profile: a request that
it refuses leaves it as it was.
-/

namespace Panel

/-- A document in the making. -/
structure Draft where
  profile : Profile
  /-- The operations so far. -/
  operations : List Operation
  /-- The variables declared so far. -/
  store : Store
  nextComponent : UInt32
  nextAction : UInt32
deriving DecidableEq, Repr

namespace Draft

/-- An empty document of a profile. -/
def new (profile : Profile) : Draft := ⟨profile, [], .new, 1, 1⟩

/-- Whether the profile has an operation. -/
def check (d : Draft) (op : Opcode) : Except EncodeError Unit :=
  if d.profile.allows op.code then .ok ()
  else .error (.unsupportedOperation op.code d.profile.name)

/-- Append an operation. -/
def push (d : Draft) (op : Operation) : Except EncodeError Draft := do
  d.check op.opcode
  return { d with operations := d.operations ++ [op] }

/-! ## Variables -/

/-- The constant with a value, declared unless there is one already. -/
def constant (d : Draft) (value : Value) : Except EncodeError (VariableId × Draft) := do
  d.check value.kind.opcode
  let (id, store) := d.store.declare value
  if d.store.size < store.size then
    return (id, { d with store, operations := d.operations ++ [.value id value] })
  else
    return (id, { d with store })

/-- A new variable with a first value. -/
def addVariable (d : Draft) (value : Value) : Except EncodeError (VariableId × Draft) := do
  d.check value.kind.opcode
  let (id, store) := d.store.declareMutable value
  return (id, { d with store, operations := d.operations ++ [.value id value] })

/-- A new derived variable. -/
def derive (d : Draft) (recipe : Recipe) : Except EncodeError (VariableId × Draft) := do
  d.check recipe.opcode
  let (id, store) := d.store.declareMutable (.default recipe.kind)
  return (id, { d with store, operations := d.operations ++ [.derived ⟨id, recipe⟩] })

/-- Make a variable known to the host. -/
def name (d : Draft) (id : VariableId) (text : String) : Except EncodeError Draft :=
  d.push (.name id text)

/-! ## Components -/

/-- A new component, which opens a scope if it is a container. -/
def component (d : Draft) (kind : ComponentKind) : Except EncodeError (ComponentId × Draft) := do
  let id : ComponentId := ⟨d.nextComponent⟩
  let d ← d.push (.component id kind)
  return (id, { d with nextComponent := d.nextComponent + 1 })

/-- Close the innermost scope. -/
def endContainer (d : Draft) : Except EncodeError Draft := d.push .containerEnd

/-- Decorate the next component. -/
def modifier (d : Draft) (m : Modifier) : Except EncodeError Draft := d.push (.modifier m)

/-! ## Actions -/

/-- A new action. -/
def action (d : Draft) (effect : Effect) : Except EncodeError (ActionId × Draft) := do
  let id : ActionId := ⟨d.nextAction⟩
  let d ← d.push (.action ⟨id, effect⟩)
  return (id, { d with nextAction := d.nextAction + 1 })

/-! ## The finished document -/

/-- The bytes of the document. -/
def finish (d : Draft) : Except EncodeError (List UInt8) :=
  Wire.encodeDocument d.operations d.profile

end Draft

end Panel
