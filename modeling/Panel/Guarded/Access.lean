/-!
# Access that can fail

An entry is taken from a list by its number, a stretch of a list by its bounds, and one size is
subtracted from another.  Each of these has no answer where the number is not within the list or the
difference is below zero.  A sum of two sizes may be too large for a size.

* `Overflow` tells what becomes of such a sum;
* `Checked` is a computation that has no answer as soon as one of its accesses has none; otherwise
  it succeeds or fails.
-/

namespace Panel

variable {α β ε : Type}

/-- The difference of two sizes. -/
def difference? (m n : Nat) : Option Nat := if n ≤ m then some (m - n) else none

/-- The entries of a list from one number up to another. -/
def slice? (l : List α) (start stop : Nat) : Option (List α) :=
  if start ≤ stop ∧ stop ≤ l.length then some ((l.take stop).drop start) else none

/-- A list that is copied to a place for so many entries. -/
def copy? (width : Nat) (l : List α) : Option (List α) := if l.length = width then some l else none

/-- What becomes of a sum that is too large for 64 bits: either it has no answer, or the bits above
those are lost. -/
inductive Overflow
  | stops
  | wraps
deriving DecidableEq, Repr

/-- The sum of two sizes. -/
def Overflow.sum? (overflow : Overflow) (m n : Nat) : Option Nat :=
  if m + n < UInt64.size then some (m + n)
  else match overflow with
    | stops => none
    | wraps => some ((m + n) % UInt64.size)

/-- A computation that succeeds or fails, if it has an answer at all. -/
abbrev Checked (ε : Type) := ExceptT ε Option

/-- A result that takes no access. -/
def Checked.of (x : Except ε α) : Checked ε α := .mk (some x)

/-! ## Laws -/

theorem difference?_of_le {m n : Nat} (h : n ≤ m) : difference? m n = some (m - n) := if_pos h

theorem Overflow.sum?_of_lt {overflow : Overflow} {m n : Nat} (h : m + n < UInt64.size) :
    overflow.sum? m n = some (m + n) :=
  if_pos h

/-- Only a program that stops has no answer, and a sum that is not too large is exact. -/
theorem Overflow.exists_sum? {overflow : Overflow} {m n : Nat}
    (h : overflow = .stops → m + n < UInt64.size) :
    ∃ k, overflow.sum? m n = some k ∧ (m + n < UInt64.size → k = m + n) := by
  by_cases hlt : m + n < UInt64.size
  · exact ⟨m + n, sum?_of_lt hlt, fun _ => rfl⟩
  · cases overflow with
    | stops => exact absurd (h rfl) hlt
    | wraps => exact ⟨_, if_neg hlt, fun hlt' => absurd hlt' hlt⟩

theorem slice?_of_le {l : List α} {start count : Nat} (h : start + count ≤ l.length) :
    slice? l start (start + count) = some ((l.drop start).take count) := by
  rw [slice?, if_pos ⟨Nat.le_add_right start count, h⟩, List.drop_take, Nat.add_sub_cancel_left]

theorem copy?_of_eq {width : Nat} {l : List α} (h : l.length = width) : copy? width l = some l :=
  if_pos h

namespace Checked

theorem run_lift {found : Option α} {a : α} (h : found = some a) :
    (liftM found : Checked ε α).run = some (.ok a) := by
  rw [h]
  rfl

/-- A computation has the answer that it has without the checks, if each of its steps has. -/
theorem run_bind {m? : Checked ε α} {f? : α → Checked ε β} {m : Except ε α} {f : α → Except ε β}
    (hm : m?.run = some m) (hf : ∀ a, m = .ok a → (f? a).run = some (f a)) :
    (m? >>= f?).run = some (m >>= f) := by
  rw [ExceptT.run_bind, hm]
  cases m with
  | error e => rfl
  | ok a => exact hf a rfl

theorem exists_of_run_bind {m : Checked ε α} {f : α → Checked ε β} {b : β}
    (h : (m >>= f).run = some (.ok b)) :
    ∃ a, m.run = some (.ok a) ∧ (f a).run = some (.ok b) := by
  rw [ExceptT.run_bind] at h
  rcases hm : m.run with _ | ⟨e | a⟩
  · rw [hm] at h
    contradiction
  · rw [hm] at h
    cases h
  · rw [hm] at h
    exact ⟨a, rfl, h⟩

/-- What is looked up and found does not fail. -/
theorem run_bind_lift {found : Option α} {a : α} {f? : α → Checked ε β} (h : found = some a) :
    ((liftM found : Checked ε α) >>= f?).run = (f? a).run := by
  rw [ExceptT.run_bind, run_lift h]
  rfl

end Checked

end Panel
