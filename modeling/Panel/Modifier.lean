import Panel.Dimension
import Panel.Visibility

/-!
# Modifiers

Modifiers decorate a component.  A component carries a list of them, in the order of declaration:

* of several widths, heights or visibilities the last one counts;
* paddings add up;
* backgrounds and borders are all painted, in order;
* actions bound to one trigger run one after the other.
-/

namespace Panel

/-- The touch that an action is bound to. -/
inductive TouchTrigger where
  | down
  | up
deriving DecidableEq, Repr, Inhabited

namespace TouchTrigger

/-- The number that stands for a trigger. -/
def code : TouchTrigger → UInt8
  | down => 0
  | up => 1

/-- The trigger that a number stands for. -/
def ofCode? : UInt8 → Option TouchTrigger
  | 0 => some down
  | 1 => some up
  | _ => none

@[simp] theorem ofCode?_code (t : TouchTrigger) : ofCode? t.code = some t := by
  cases t <;> rfl

end TouchTrigger

/-- One decoration of a component. -/
inductive Modifier where
  | width (dimension : Dimension)
  | height (dimension : Dimension)
  | padding (padding : Padding)
  /-- Fill the bounds with the color in a variable. -/
  | background (color : VariableId)
  /-- Stroke the outline with the color in a variable. -/
  | border (width : Single) (color : VariableId)
  | visibility (source : VisibilitySource)
  | touchAction (trigger : TouchTrigger) (actions : List ActionId)
deriving DecidableEq, Repr

/-- The modifiers of one component, in the order of declaration. -/
abbrev Modifiers := List Modifier

namespace Modifier

/-- The width that a modifier asks for. -/
def width? : Modifier → Option Dimension
  | width d => some d
  | _ => none

/-- The height that a modifier asks for. -/
def height? : Modifier → Option Dimension
  | height d => some d
  | _ => none

/-- The padding that a modifier adds. -/
def padding? : Modifier → Option Padding
  | padding p => some p
  | _ => none

/-- Where a modifier takes the visibility from. -/
def visibility? : Modifier → Option VisibilitySource
  | visibility source => some source
  | _ => none

/-- The actions that a modifier binds to a trigger. -/
def actionsFor (trigger : TouchTrigger) : Modifier → List ActionId
  | touchAction t actions => if t = trigger then actions else []
  | _ => []

/-- The actions that a modifier binds. -/
def actions : Modifier → List ActionId
  | touchAction _ actions => actions
  | _ => []

/-- The variable that a modifier reads for layout or painting. -/
def mentioned? : Modifier → Option VariableId
  | background color => some color
  | border _ color => some color
  | visibility (.reference id) => some id
  | _ => none

end Modifier

namespace Modifiers

/-- The requested width. -/
def width (ms : Modifiers) : Dimension := (ms.reverse.findSome? Modifier.width?).getD .wrap

/-- The requested height. -/
def height (ms : Modifiers) : Dimension := (ms.reverse.findSome? Modifier.height?).getD .wrap

/-- The sum of all paddings. -/
def padding (ms : Modifiers) : Padding := (ms.filterMap Modifier.padding?).foldl Padding.add .none

/-- Where the visibility comes from; visible unless told otherwise. -/
def visibility (ms : Modifiers) : VisibilitySource :=
  (ms.reverse.findSome? Modifier.visibility?).getD (.literal .visible)

/-- The actions bound to a trigger, in the order in which they run. -/
def actionsFor (ms : Modifiers) (trigger : TouchTrigger) : List ActionId :=
  ms.flatMap (Modifier.actionsFor trigger)

/-- Whether any action is bound to any trigger. -/
def isInteractive (ms : Modifiers) : Bool := ms.any fun m => !m.actions.isEmpty

/-- Every variable read for layout or painting, once each, in the order of first mention. -/
def reads (ms : Modifiers) : List VariableId :=
  (ms.filterMap Modifier.mentioned?).foldl VariableId.addTo []

end Modifiers

end Panel
