import Panel.Operation

/-!
# Well-formed lists of operations

What a list of operations has to be like so that a tree can be built from it, said without building
one: the layout operations are one balanced scope, modifiers come before the components that they
decorate, components are not nested too deep, names are distinct and bound actions are declared.
-/

namespace Panel

namespace Operation

/-- Whether an operation begins or ends a component. -/
def isLayout : Operation → Bool
  | component .. => true
  | containerEnd => true
  | _ => false

/-- Whether an operation says something about the tree. -/
def isStructural : Operation → Bool
  | modifier _ => true
  | op => op.isLayout

/-- Whether an operation opens a scope. -/
def opens : Operation → Bool
  | component _ kind => kind.isContainer
  | _ => false

/-- Whether an operation closes a scope. -/
def closes : Operation → Bool
  | containerEnd => true
  | _ => false

/-- The variable that an operation declares. -/
def declaredVariable? : Operation → Option VariableId
  | value id _ => some id
  | derived declaration => some declaration.id
  | _ => none

/-- The component that an operation declares. -/
def declaredComponent? : Operation → Option ComponentId
  | component id _ => some id
  | _ => none

/-- The action that an operation declares. -/
def declaredAction? : Operation → Option ActionId
  | action declared => some declared.id
  | _ => none

end Operation

/-- Complete components one after the other: leaves, and containers up to their ends. -/
inductive Siblings : List Operation → Prop where
  | nil : Siblings []
  | leaf {id kind rest} (hkind : kind.isContainer = false) (hrest : Siblings rest) :
      Siblings (.component id kind :: rest)
  | scope {id kind inner rest} (hkind : kind.isContainer = true) (hinner : Siblings inner)
      (hrest : Siblings rest) :
      Siblings (.component id kind :: (inner ++ .containerEnd :: rest))

/-- One container up to its end. -/
def OneScope (layout : List Operation) : Prop :=
  ∃ id kind inner, kind.isContainer = true ∧ Siblings inner ∧
    layout = .component id kind :: (inner ++ [.containerEnd])

/-- The number of containers that are open after some operations. -/
def enclosing (before : List Operation) : Nat :=
  before.countP Operation.opens - before.countP Operation.closes

/-- A component comes before the next container end. -/
def Followed (after : List Operation) : Prop :=
  ∃ between id kind rest, after = between ++ .component id kind :: rest ∧
    .containerEnd ∉ between

/-- The lists of operations that a tree can be built from. -/
structure WellFormed (maxDepth : Nat) (operations : List Operation) : Prop where
  scope : OneScope (operations.filter Operation.isLayout)
  followed : ∀ before m after, operations = before ++ .modifier m :: after → Followed after
  nesting : ∀ before id kind after, operations = before ++ .component id kind :: after →
    enclosing before < maxDepth
  variableIds : (operations.filterMap Operation.declaredVariable?).Nodup
  componentIds : (operations.filterMap Operation.declaredComponent?).Nodup
  actionIds : (operations.filterMap Operation.declaredAction?).Nodup
  declared : ∀ trigger ids, .modifier (.touchAction trigger ids) ∈ operations → ∀ id ∈ ids,
    ∃ effect, .action ⟨id, effect⟩ ∈ operations

/-! ## Scopes -/

namespace Siblings

variable {front back layout : List Operation}

theorem append (hfront : Siblings front) (hback : Siblings back) : Siblings (front ++ back) := by
  induction hfront with
  | nil => exact hback
  | leaf hkind _ ih => exact .leaf hkind ih
  | scope hkind hinner _ _ ih =>
      rw [List.cons_append, List.append_assoc, List.cons_append]
      exact .scope hkind hinner ih

theorem countP_opens (h : Siblings layout) :
    layout.countP Operation.opens = layout.countP Operation.closes := by
  induction h with
  | nil => rfl
  | leaf hkind _ ih => simpa [Operation.opens, Operation.closes, hkind] using ih
  | scope hkind _ _ ihinner ihrest =>
      simp only [List.countP_cons, List.countP_append, Operation.opens, Operation.closes, hkind,
        Bool.false_eq_true, if_true, if_false]
      omega

/-- No front part closes more scopes than it opens. -/
theorem countP_closes_le (h : Siblings layout) :
    ∀ front back, layout = front ++ back →
      front.countP Operation.closes ≤ front.countP Operation.opens := by
  induction h with
  | nil =>
      intro front back hsplit
      obtain ⟨rfl, rfl⟩ := List.nil_eq_append_iff.1 hsplit
      exact Nat.le_refl _
  | leaf hkind _ ih =>
      intro front back hsplit
      rcases List.cons_eq_append_iff.1 hsplit with ⟨rfl, -⟩ | ⟨front, rfl, hrest⟩
      · exact Nat.le_refl _
      · simpa [Operation.opens, Operation.closes, hkind] using ih front back hrest
  | scope hkind hinner _ ihinner ihrest =>
      intro front back hsplit
      rcases List.cons_eq_append_iff.1 hsplit with ⟨rfl, -⟩ | ⟨front, rfl, hscope⟩
      · exact Nat.le_refl _
      · simp only [List.countP_cons, Operation.opens, Operation.closes, hkind, if_true,
          Bool.false_eq_true, if_false]
        -- The part ends beyond the scope, or inside it.
        rcases List.append_eq_append_iff.1 hscope with ⟨beyond, rfl, hlast⟩ | ⟨inner', rfl, -⟩
        · have hbalanced := hinner.countP_opens
          rw [List.countP_append, List.countP_append]
          rcases List.cons_eq_append_iff.1 hlast with ⟨rfl, -⟩ | ⟨beyond, rfl, hrest⟩
          · simp only [List.countP_nil]
            omega
          · have hbeyond := ihrest beyond back hrest
            simp only [List.countP_cons, Operation.opens, Operation.closes, if_true,
              Bool.false_eq_true, if_false]
            omega
        · have hfront := ihinner front inner' rfl
          omega

end Siblings

namespace OneScope

variable {layout front back : List Operation} {op : Operation}

theorem siblings (h : OneScope layout) : Siblings layout := by
  obtain ⟨id, kind, inner, hkind, hinner, rfl⟩ := h
  exact .scope hkind hinner .nil

/-- Every operation but the first is inside the scope. -/
theorem eq_nil_or_countP_closes_lt (h : OneScope (front ++ op :: back)) :
    front = [] ∧ op.opens = true ∨
      front.countP Operation.closes < front.countP Operation.opens := by
  obtain ⟨id, kind, inner, hkind, hinner, hlayout⟩ := h
  rcases List.append_eq_cons_iff.1 hlayout with ⟨rfl, hfirst⟩ | ⟨front, rfl, hrest⟩
  · obtain ⟨rfl, -⟩ := List.cons.inj hfirst
    exact .inl ⟨rfl, hkind⟩
  · right
    have hfront : front.countP Operation.closes ≤ front.countP Operation.opens := by
      rcases List.append_eq_append_iff.1 hrest with ⟨beyond, hinside, hlast⟩ | ⟨inner', rfl, -⟩
      · obtain ⟨rfl, -⟩ : beyond = [] ∧ op :: back = [.containerEnd] := by
          simpa [List.append_eq_cons_iff] using hlast.symm
        rw [hinside, List.append_nil]
        exact Nat.le_of_eq hinner.countP_opens.symm
      · exact hinner.countP_closes_le front inner' rfl
    simp only [List.countP_cons, Operation.opens, Operation.closes, hkind, if_true,
      Bool.false_eq_true, if_false]
    omega

end OneScope

/-! ## Layout among other operations -/

theorem filter_isLayout_filter_isStructural (operations : List Operation) :
    (operations.filter Operation.isStructural).filter Operation.isLayout =
      operations.filter Operation.isLayout := by
  rw [List.filter_filter]
  apply List.filter_congr
  intro op _
  cases op <;> rfl

theorem countP_opens_filter_isLayout (operations : List Operation) :
    (operations.filter Operation.isLayout).countP Operation.opens =
      operations.countP Operation.opens := by
  rw [List.countP_filter]
  apply List.countP_congr
  intro op _
  cases op <;> simp [Operation.opens, Operation.isLayout]

theorem countP_closes_filter_isLayout (operations : List Operation) :
    (operations.filter Operation.isLayout).countP Operation.closes =
      operations.countP Operation.closes := by
  rw [List.countP_filter]
  apply List.countP_congr
  intro op _
  cases op <;> simp [Operation.closes, Operation.isLayout]

namespace WellFormed

variable {maxDepth : Nat} {operations before after : List Operation} {op : Operation}

theorem countP_closes (h : WellFormed maxDepth operations) :
    operations.countP Operation.closes = operations.countP Operation.opens := by
  have hbalanced := h.scope.siblings.countP_opens
  rw [countP_opens_filter_isLayout, countP_closes_filter_isLayout] at hbalanced
  exact hbalanced.symm

theorem countP_closes_le (h : WellFormed maxDepth operations)
    (hsplit : operations = before ++ after) :
    before.countP Operation.closes ≤ before.countP Operation.opens := by
  have hscope := h.scope
  rw [hsplit, List.filter_append] at hscope
  have hle := hscope.siblings.countP_closes_le _ _ rfl
  rwa [countP_opens_filter_isLayout, countP_closes_filter_isLayout] at hle

/-- A layout operation stands inside the root, unless it is the root. -/
theorem enclosing_pos (h : WellFormed maxDepth operations)
    (hsplit : operations = before ++ op :: after) (hop : op.isLayout = true) :
    before.filter Operation.isLayout = [] ∧ op.opens = true ∨ 0 < enclosing before := by
  have hscope := h.scope
  rw [hsplit, List.filter_append, List.filter_cons_of_pos hop] at hscope
  rcases hscope.eq_nil_or_countP_closes_lt with hfirst | hinside
  · exact .inl hfirst
  · rw [countP_opens_filter_isLayout, countP_closes_filter_isLayout] at hinside
    exact .inr (Nat.sub_pos_of_lt hinside)

end WellFormed

end Panel
