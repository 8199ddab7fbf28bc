import Panel.Identifier

/-!
# Visibility

A visible component is laid out and drawn, an invisible one is laid out only, and one that is gone
is treated as if it were absent.  A component takes its visibility from a constant or from an
integer variable.
-/

namespace Panel

/-- Whether a component is drawn, only takes space, or does neither. -/
inductive Visibility where
  | visible
  | invisible
  | gone
deriving DecidableEq, Repr, Inhabited

namespace Visibility

/-- The number that stands for a visibility. -/
def code : Visibility → UInt8
  | visible => 0
  | invisible => 1
  | gone => 2

/-- The visibility that a number stands for. -/
def ofCode? : UInt8 → Option Visibility
  | 0 => some visible
  | 1 => some invisible
  | 2 => some gone
  | _ => none

@[simp] theorem ofCode?_code (v : Visibility) : ofCode? v.code = some v := by
  cases v <;> rfl

/-- The visibility an integer variable asks for; values without a meaning are visible. -/
def ofInt (value : Int32) : Visibility :=
  if value = 1 then invisible else if value = 2 then gone else visible

/-- Whether the component takes part in layout. -/
def takesSpace : Visibility → Bool
  | gone => false
  | _ => true

/-- Whether the component is drawn. -/
def isDrawn : Visibility → Bool
  | visible => true
  | _ => false

end Visibility

/-- Where a component takes its visibility from. -/
inductive VisibilitySource where
  | literal (visibility : Visibility)
  | reference (id : VariableId)
deriving DecidableEq, Repr

end Panel
