/-!
# Identifiers

Variables, components and actions are named by numbers that the author of a document chooses.  The
three kinds are separate types; their text carries the letter of the kind.
-/

namespace Panel

/-- Name of a slot in the variable store. -/
structure VariableId where
  number : UInt32
deriving DecidableEq, Repr, Inhabited

/-- Name of a component of the tree. -/
structure ComponentId where
  number : UInt32
deriving DecidableEq, Repr, Inhabited

/-- Name of a declared action. -/
structure ActionId where
  number : UInt32
deriving DecidableEq, Repr, Inhabited

/-- Append a name to a list unless the list has it. -/
def VariableId.addTo (seen : List VariableId) (id : VariableId) : List VariableId :=
  if id ∈ seen then seen else seen ++ [id]

/-- Text of a variable name, such as `v7`. -/
def VariableId.text (id : VariableId) : String := "v" ++ toString id.number.toNat

/-- Text of a component name, such as `c7`. -/
def ComponentId.text (id : ComponentId) : String := "c" ++ toString id.number.toNat

/-- Text of an action name, such as `a7`. -/
def ActionId.text (id : ActionId) : String := "a" ++ toString id.number.toNat

end Panel
