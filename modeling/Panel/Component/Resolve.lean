import Panel.Component.Basic
import Panel.Store

/-!
# What references stand for

Components refer to variables by name.  A reference that leads nowhere, or to a variable of another
kind, does no harm: text is then empty, a color is transparent, and a component is visible.
-/

namespace Panel

/-- The visibility that a source stands for at present. -/
def VisibilitySource.resolve (store : Store) : VisibilitySource → Visibility
  | literal visibility => visibility
  | reference id =>
    match store.getInt id with
    | .ok value => .ofInt value
    | .error _ => .visible

/-- The visibility that modifiers give a component at present. -/
def Modifiers.resolvedVisibility (store : Store) (ms : Modifiers) : Visibility :=
  (Modifiers.visibility ms).resolve store

namespace Store

/-- The text that a reference stands for at present. -/
def resolveText (store : Store) (id : VariableId) : String :=
  match store.getText id with
  | .ok text => text
  | .error _ => ""

/-- The color that a reference stands for at present. -/
def resolveColor (store : Store) (id : VariableId) : Color :=
  match store.getColor id with
  | .ok color => color
  | .error _ => .transparent

end Store

end Panel
