import Mathlib.Data.List.DropRight
import Mathlib.Data.List.Induction
import Mathlib.Data.List.Nodup
import Panel.Proofs.Content.WellFormed

/-!
# Operations that may come next

Whether an operation may come after others depends on these alone: on the names they declare, on
the containers they leave open and on the modifiers they leave waiting.  In a well-formed list
every operation may come where it stands.
-/

namespace Panel

section Splits

variable {α β : Type} {l : List α}

/-- A property of elements and what comes before them, for all elements of a list and one more. -/
theorem forall_split_concat {P : List α → α → Prop} {y : α} :
    (∀ before x after, l ++ [y] = before ++ x :: after → P before x) ↔
      (∀ before x after, l = before ++ x :: after → P before x) ∧ P l y := by
  constructor
  · intro h
    refine ⟨fun before x after hsplit => h before x (after ++ [y]) ?_, h l y [] rfl⟩
    rw [hsplit, List.append_assoc, List.cons_append]
  · intro ⟨hfront, hlast⟩ before x after hsplit
    rcases List.eq_nil_or_concat after with rfl | ⟨after, z, rfl⟩
    · obtain ⟨rfl, ⟨⟩⟩ := List.append_inj' hsplit rfl
      exact hlast
    · rw [List.concat_eq_append, ← List.cons_append, ← List.append_assoc] at hsplit
      obtain ⟨hsplit, -⟩ := List.append_inj' hsplit rfl
      exact hfront before x after hsplit

theorem nodup_filterMap_iff {f : α → Option β} :
    (l.filterMap f).Nodup ↔
      ∀ before x after, l = before ++ x :: after → ∀ y, f x = some y → y ∉ before.filterMap f := by
  induction l using List.reverseRecOn with
  | nil => simp
  | append_singleton l x ih =>
      rw [forall_split_concat, ← ih, List.filterMap_append]
      cases hx : f x with
      | none => simp [hx]
      | some y =>
          rw [List.filterMap_cons_some hx, List.filterMap_nil, ← List.concat_eq_append,
            List.nodup_concat, and_comm]
          simp only [Option.some.injEq, forall_eq']

end Splits

/-! ## Waiting modifiers -/

/-- The modifiers since the last layout operation. -/
def waiting (before : List Operation) : Modifiers :=
  (before.rtakeWhile fun op => !op.isLayout).filterMap fun
    | .modifier m => some m
    | _ => none

section Waiting

variable {operations before : List Operation} {op : Operation} {m : Modifier}

theorem waiting_concat_modifier : waiting (before ++ [.modifier m]) = waiting before ++ [m] := by
  simp [waiting, Operation.isLayout]

theorem waiting_concat_layout (hop : op.isLayout = true) : waiting (before ++ [op]) = [] := by
  simp [waiting, hop]

theorem waiting_concat_other (hop : op.isStructural = false) :
    waiting (before ++ [op]) = waiting before := by
  cases op <;> first | contradiction | simp [waiting, Operation.isLayout]

theorem mem_waiting_concat (hop : op.isLayout = false) (hm : m ∈ waiting before) :
    m ∈ waiting (before ++ [op]) := by
  cases op with
  | modifier => rw [waiting_concat_modifier]; exact List.mem_append_left _ hm
  | component | containerEnd => contradiction
  | _ => rw [waiting_concat_other rfl]; exact hm

theorem mem_waiting_iff :
    m ∈ waiting operations ↔ ∃ before after, operations = before ++ .modifier m :: after ∧
      ∀ op ∈ after, op.isLayout = false := by
  constructor
  · intro hm
    obtain ⟨op, hop, hmodifier⟩ := List.mem_filterMap.1 hm
    obtain rfl : op = .modifier m := by
      cases op <;> simp_all
    obtain ⟨front, after, hsplit⟩ := List.append_of_mem hop
    refine ⟨operations.rdropWhile (fun op => !op.isLayout) ++ front, after, ?_, ?_⟩
    · rw [List.append_assoc, ← hsplit, List.rdropWhile_append_rtakeWhile]
    · intro op hafter
      have hlast : op ∈ operations.rtakeWhile fun op => !op.isLayout := by
        rw [hsplit]
        exact List.mem_append_right _ (List.mem_cons_of_mem _ hafter)
      simpa using List.mem_rtakeWhile_imp hlast
  · rintro ⟨before, after, rfl, hafter⟩
    induction after using List.reverseRecOn with
    | nil =>
        rw [waiting_concat_modifier]
        exact List.mem_append_right _ List.mem_cons_self
    | append_singleton after op ih =>
        rw [← List.cons_append, ← List.append_assoc]
        apply mem_waiting_concat (hafter op (by simp))
        exact ih fun op hop => hafter op (List.mem_append_left _ hop)

theorem not_followed_nil : ¬Followed [] :=
  fun ⟨_, _, _, _, hsplit, _⟩ => absurd hsplit (by simp)

theorem not_followed_containerEnd {after : List Operation} :
    ¬Followed (.containerEnd :: after) := by
  rintro ⟨between, id, kind, rest, hsplit, hbetween⟩
  rcases List.cons_eq_append_iff.1 hsplit with ⟨-, hfirst⟩ | ⟨between, rfl, -⟩
  · cases hfirst
  · exact hbetween List.mem_cons_self

theorem followed_cons {after : List Operation} (hop : op.isLayout = false) :
    Followed (op :: after) ↔ Followed after := by
  constructor
  · rintro ⟨between, id, kind, rest, hsplit, hbetween⟩
    rcases List.cons_eq_append_iff.1 hsplit with ⟨-, hfirst⟩ | ⟨between, rfl, hrest⟩
    · cases hfirst
      contradiction
    · exact ⟨between, id, kind, rest, hrest, fun h => hbetween (List.mem_cons_of_mem _ h)⟩
  · rintro ⟨between, id, kind, rest, rfl, hbetween⟩
    refine ⟨op :: between, id, kind, rest, rfl, fun h => ?_⟩
    rcases List.mem_cons.1 h with rfl | h
    · contradiction
    · exact hbetween h

theorem followed_append {front after : List Operation}
    (hfront : ∀ op ∈ front, op.isLayout = false) : Followed (front ++ after) ↔ Followed after := by
  induction front with
  | nil => rfl
  | cons op front ih =>
      rw [List.cons_append, followed_cons (hfront op List.mem_cons_self)]
      exact ih fun op hop => hfront op (List.mem_cons_of_mem _ hop)

/-- The next layout operation, if there is one, is a component or a container end. -/
theorem followed_or (after : List Operation) :
    (∀ op ∈ after, op.isLayout = false) ∨ Followed after ∨
      ∃ front rest, after = front ++ .containerEnd :: rest ∧
        ∀ op ∈ front, op.isLayout = false := by
  induction after with
  | nil => exact .inl fun _ hop => absurd hop List.not_mem_nil
  | cons op after ih =>
      by_cases hop : op.isLayout = true
      · right
        cases op with
        | component id kind => exact .inl ⟨[], id, kind, after, rfl, List.not_mem_nil⟩
        | containerEnd => exact .inr ⟨[], after, rfl, fun _ h => absurd h List.not_mem_nil⟩
        | _ => contradiction
      · rw [Bool.not_eq_true] at hop
        rw [followed_cons hop, List.forall_mem_cons]
        rcases ih with hnone | hfollowed | ⟨front, rest, rfl, hfront⟩
        · exact .inl ⟨hop, hnone⟩
        · exact .inr (.inl hfollowed)
        · exact .inr (.inr ⟨op :: front, rest, rfl, List.forall_mem_cons.2 ⟨hop, hfront⟩⟩)

/-- Modifiers come before their components just if none is waiting at a container end or at the
end of the list. -/
theorem forall_followed_iff :
    (∀ before m after, operations = before ++ .modifier m :: after → Followed after) ↔
      waiting operations = [] ∧
        ∀ before after, operations = before ++ .containerEnd :: after → waiting before = [] := by
  constructor
  · intro h
    constructor
    · refine List.eq_nil_iff_forall_not_mem.2 fun m hm => ?_
      obtain ⟨before, after, hsplit, hafter⟩ := mem_waiting_iff.1 hm
      have hfollowed := h before m after hsplit
      rw [← List.append_nil after, followed_append hafter] at hfollowed
      exact not_followed_nil hfollowed
    · refine fun front after hsplit => List.eq_nil_iff_forall_not_mem.2 fun m hm => ?_
      obtain ⟨before, between, rfl, hbetween⟩ := mem_waiting_iff.1 hm
      rw [List.append_assoc, List.cons_append] at hsplit
      have hfollowed := h before m _ hsplit
      rw [followed_append hbetween] at hfollowed
      exact not_followed_containerEnd hfollowed
  · intro ⟨hend, hclosed⟩ before m after hsplit
    rcases followed_or after with hafter | hfollowed | ⟨front, rest, rfl, hfront⟩
    · have hm : m ∈ waiting operations := mem_waiting_iff.2 ⟨before, after, hsplit, hafter⟩
      rw [hend] at hm
      contradiction
    · exact hfollowed
    · have hm : m ∈ waiting (before ++ .modifier m :: front) :=
        mem_waiting_iff.2 ⟨before, front, rfl, hfront⟩
      rw [hclosed (before ++ .modifier m :: front) rest (by
        rw [hsplit, List.append_assoc, List.cons_append])] at hm
      contradiction

end Waiting

/-! ## Admissible operations -/

/-- Whether an operation may come after others. -/
def Operation.Admissible (maxDepth : Nat) (before : List Operation) : Operation → Prop
  | value id _ => id ∉ before.filterMap declaredVariable?
  | name .. => True
  | derived declaration => declaration.id ∉ before.filterMap declaredVariable?
  | component id kind =>
    (enclosing before = 0 → before.filter isLayout = [] ∧ kind.isContainer = true) ∧
      enclosing before < maxDepth ∧ id ∉ before.filterMap declaredComponent?
  | containerEnd => waiting before = [] ∧ 0 < enclosing before
  | modifier _ => True
  | action declared => declared.id ∉ before.filterMap declaredAction?

section Admissible

variable {maxDepth : Nat} {operations before after : List Operation} {op : Operation}

theorem WellFormed.admissible (h : WellFormed maxDepth operations)
    (hsplit : operations = before ++ op :: after) : op.Admissible maxDepth before := by
  cases op with
  | value id value => exact nodup_filterMap_iff.1 h.variableIds before _ after hsplit id rfl
  | name id name => trivial
  | derived declaration => exact nodup_filterMap_iff.1 h.variableIds before _ after hsplit _ rfl
  | component id kind =>
      refine ⟨fun hroot => ?_, h.nesting before id kind after hsplit,
        nodup_filterMap_iff.1 h.componentIds before _ after hsplit id rfl⟩
      rcases h.enclosing_pos hsplit rfl with hfirst | hinside
      · exact hfirst
      · omega
  | containerEnd =>
      refine ⟨(forall_followed_iff.1 h.followed).2 before after hsplit, ?_⟩
      rcases h.enclosing_pos hsplit rfl with ⟨-, hopens⟩ | hinside
      · contradiction
      · exact hinside
  | modifier m => trivial
  | action declared => exact nodup_filterMap_iff.1 h.actionIds before _ after hsplit _ rfl

theorem Operation.Admissible.variableId_notMem (h : op.Admissible maxDepth before) :
    ∀ id, op.declaredVariable? = some id → id ∉ before.filterMap declaredVariable? := by
  intro id hid
  cases op <;> cases hid <;> exact h

theorem Operation.Admissible.componentId_notMem (h : op.Admissible maxDepth before) :
    ∀ id, op.declaredComponent? = some id → id ∉ before.filterMap declaredComponent? := by
  intro id hid
  cases op <;> cases hid
  exact h.2.2

theorem Operation.Admissible.actionId_notMem (h : op.Admissible maxDepth before) :
    ∀ id, op.declaredAction? = some id → id ∉ before.filterMap declaredAction? := by
  intro id hid
  cases op <;> cases hid
  exact h

theorem wellFormed_of_admissible
    (hadmissible : ∀ before op after, operations = before ++ op :: after →
      op.Admissible maxDepth before)
    (hscope : OneScope (operations.filter Operation.isLayout)) (hend : waiting operations = [])
    (hdeclared : ∀ trigger ids, .modifier (.touchAction trigger ids) ∈ operations → ∀ id ∈ ids,
      ∃ effect, .action ⟨id, effect⟩ ∈ operations) :
    WellFormed maxDepth operations where
  scope := hscope
  followed := forall_followed_iff.2
    ⟨hend, fun before after hsplit => (hadmissible before _ after hsplit).1⟩
  nesting := fun before _ _ after hsplit => (hadmissible before _ after hsplit).2.1
  variableIds := nodup_filterMap_iff.2 fun before op after hsplit =>
    (hadmissible before op after hsplit).variableId_notMem
  componentIds := nodup_filterMap_iff.2 fun before op after hsplit =>
    (hadmissible before op after hsplit).componentId_notMem
  actionIds := nodup_filterMap_iff.2 fun before op after hsplit =>
    (hadmissible before op after hsplit).actionId_notMem
  declared := hdeclared

end Admissible

end Panel
