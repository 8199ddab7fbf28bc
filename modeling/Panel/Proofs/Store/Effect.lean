import Panel.Action
import Panel.Proofs.Result

/-!
# What an effect does to a store

An effect asks the host, or writes a value to its target; the value is its operand, which is never a
list.
-/

namespace Panel.Effect

variable {effect : Effect} {s t : Store} {outcome : Outcome} {value : Value}

/-- The value that an effect writes, by what a store holds. -/
def operand? (s : Store) : Effect → Option Value
  | setInteger _ value => some (.int value)
  | setFloat _ value => some (.float value)
  | copyText _ text => (s.getText text).toOption.map .text
  | copyInteger _ expression =>
    (s.getScalar expression).toOption.map fun scalar => .int scalar.toInt32
  | host _ => none

theorem kind_operand?_ne_list (h : effect.operand? s = some value) : value.kind ≠ .list := by
  cases effect with
  | setInteger target held =>
      cases h
      nofun
  | setFloat target held =>
      cases h
      nofun
  | copyText target text =>
      obtain ⟨held, -, rfl⟩ := Option.map_eq_some_iff.1 h
      nofun
  | copyInteger target expression =>
      obtain ⟨held, -, rfl⟩ := Option.map_eq_some_iff.1 h
      nofun
  | host request => contradiction

/-- An effect asks the host, or writes its operand to its target. -/
theorem apply_eq_ok (h : effect.apply s = .ok (outcome, t)) :
    (∃ request, effect.target? = none ∧ outcome = .host request ∧ t = s) ∨
      ∃ target value changed, effect.target? = some target ∧ effect.operand? s = some value ∧
        outcome = .written target changed ∧ s.set target value = .ok (changed, t) := by
  have hwriting {target : VariableId} {value : Value}
      (h : writing s target value = .ok (outcome, t)) :
      ∃ changed, outcome = .written target changed ∧ s.set target value = .ok (changed, t) := by
    obtain ⟨⟨changed, _⟩, hset, ⟨⟩⟩ := Result.bind_eq_ok.1 h
    exact ⟨changed, rfl, hset⟩
  cases effect with
  | setInteger target value =>
      obtain ⟨changed, houtcome, hset⟩ := hwriting h
      exact .inr ⟨target, _, changed, rfl, rfl, houtcome, hset⟩
  | setFloat target value =>
      obtain ⟨changed, houtcome, hset⟩ := hwriting h
      exact .inr ⟨target, _, changed, rfl, rfl, houtcome, hset⟩
  | copyText target text =>
      obtain ⟨held, hread, h⟩ := Result.bind_eq_ok.1 h
      obtain ⟨changed, houtcome, hset⟩ := hwriting h
      refine .inr ⟨target, .text held, changed, rfl, ?_, houtcome, hset⟩
      rw [operand?, hread]
      rfl
  | copyInteger target expression =>
      obtain ⟨held, hread, h⟩ := Result.bind_eq_ok.1 h
      obtain ⟨changed, houtcome, hset⟩ := hwriting h
      refine .inr ⟨target, .int held.toInt32, changed, rfl, ?_, houtcome, hset⟩
      rw [operand?, hread]
      rfl
  | host request =>
      cases h
      exact .inl ⟨request, rfl, rfl, rfl⟩

/-- An effect asks the host, or writes a variable with a value that is not a list. -/
theorem cases_of_apply (h : effect.apply s = .ok (outcome, t)) :
    (∃ request, outcome = .host request ∧ t = s) ∨
      ∃ target value changed, outcome = .written target changed ∧ value.kind ≠ .list ∧
        s.set target value = .ok (changed, t) := by
  rcases apply_eq_ok h with
    ⟨request, -, houtcome, hstore⟩ | ⟨target, value, changed, -, hoperand, houtcome, hset⟩
  · exact .inl ⟨request, houtcome, hstore⟩
  · exact .inr ⟨target, value, changed, houtcome, kind_operand?_ne_list hoperand, hset⟩

end Panel.Effect
