/-!
# Results

A computation that may fail succeeds when each of its steps does.  A run over a list is such a
computation, and each front part of the list has run by itself before the next step is taken.  Where
there is also a state, a failure leaves it as far as the steps before have brought it.
-/

namespace Panel.Result

variable {ε α β : Type}

theorem bind_eq_ok {x : Except ε α} {f : α → Except ε β} {b : β} :
    (x >>= f) = .ok b ↔ ∃ a, x = .ok a ∧ f a = .ok b := by
  cases x with
  | error e => exact iff_of_false nofun nofun
  | ok a =>
      constructor
      · intro hf
        exact ⟨a, rfl, hf⟩
      · rintro ⟨_, ⟨⟩, hf⟩
        exact hf

theorem map_eq_ok {x : Except ε α} {f : α → β} {b : β} :
    x.map f = .ok b ↔ ∃ a, x = .ok a ∧ f a = b := by
  cases x <;> simp [Except.map]

theorem bind_eq_error {x : Except ε α} {f : α → Except ε β} {e : ε} :
    (x >>= f) = .error e ↔ x = .error e ∨ ∃ a, x = .ok a ∧ f a = .error e := by
  cases x with
  | error refusal =>
      show Except.error refusal = .error e ↔ _
      rw [or_iff_left nofun, Except.error.injEq, Except.error.injEq]
  | ok a =>
      constructor
      · intro hf
        exact .inr ⟨a, rfl, hf⟩
      · rintro (h | ⟨_, ⟨⟩, hf⟩)
        · contradiction
        · exact hf

theorem ok_eq_ok {a b : α} : (.ok a : Except ε α) = .ok b ↔ b = a := by
  rw [Except.ok.injEq, eq_comm]

theorem ite_error_eq_ok {c : Prop} [Decidable c] {e : ε} {x : Except ε α} {a : α} :
    (if c then .error e else x) = .ok a ↔ ¬c ∧ x = .ok a := by
  split <;> simp [*]

/-- A result that can be looked at is one. -/
theorem exists_ok_of_any {x : Except ε α} {p : α → Bool} (h : x.toOption.any p = true) :
    ∃ a, x = .ok a ∧ p a = true := by
  cases x with
  | error e => contradiction
  | ok a => exact ⟨a, rfl, h⟩

/-- The error of a result, if it is one. -/
def error? : Except ε α → Option ε
  | .ok _ => none
  | .error e => some e

theorem error?_eq_none_iff {x : Except ε α} : error? x = none ↔ ∃ a, x = .ok a := by
  cases x <;> simp [error?]

theorem error?_eq_some_iff {x : Except ε α} {e : ε} : error? x = some e ↔ x = .error e := by
  cases x <;> simp [error?]

theorem foldlM_concat_eq_ok {step : β → α → Except ε β} {front : List α} {last : α} {b c : β} :
    (front ++ [last]).foldlM step b = .ok c ↔
      ∃ m, front.foldlM step b = .ok m ∧ step m last = .ok c := by
  rw [List.foldlM_append, bind_eq_ok]
  apply exists_congr
  intro m
  rw [List.foldlM_cons, bind_eq_ok]
  simp [pure, Except.pure]

/-- A run that fails does so at one element, after all before it have succeeded. -/
theorem exists_of_foldlM_eq_error {step : β → α → Except ε β} {l : List α} {b : β} {e : ε}
    (h : l.foldlM step b = .error e) : ∃ front x back m,
      l = front ++ x :: back ∧ front.foldlM step b = .ok m ∧ step m x = .error e := by
  induction l generalizing b with
  | nil => contradiction
  | cons x l ih =>
      rw [List.foldlM_cons, bind_eq_error] at h
      rcases h with hfirst | ⟨m, hfirst, hrest⟩
      · exact ⟨[], x, l, b, rfl, rfl, hfirst⟩
      · obtain ⟨front, y, back, n, rfl, hfront, hstep⟩ := ih hrest
        refine ⟨x :: front, y, back, n, rfl, ?_, hstep⟩
        rw [List.foldlM_cons, hfirst]
        exact hfront

/-! ## Computations with a state that outlives a failure -/

section

variable {σ : Type} {x : EStateM ε σ α} {f : α → EStateM ε σ β} {a : α} {e : ε} {s t : σ}

theorem run_bind_of_ok (h : x s = .ok a t) : (x >>= f) s = f a t := by
  show EStateM.bind x f s = f a t
  rw [EStateM.bind, h]

theorem run_bind_of_error (h : x s = .error e t) : (x >>= f) s = .error e t := by
  show EStateM.bind x f s = .error e t
  rw [EStateM.bind, h]

end

end Panel.Result
