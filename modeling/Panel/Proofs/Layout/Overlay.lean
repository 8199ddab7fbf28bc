import Mathlib.Data.List.Basic

/-!
# Lists that are written over

What a stretch of a list says is given by the entries of the stretch and the number of the first of
them.  `entryAt` says which of these has a number, `Reads` that looking up finds them, and `overlay`
writes them over a list.
-/

namespace Panel

variable {α β : Type}

/-! ## Entries by number -/

/-- What consecutive entries, the first of which has number `start`, say for a number. -/
def entryAt (start : Nat) (entries : List (Option α)) (i : Nat) : Option α :=
  if start ≤ i then entries[i - start]?.join else none

/-- A look-up finds what some entries say. -/
def Reads (look : Nat → α) (start : Nat) (entries : List (Option α)) : Prop :=
  ∀ (k : Nat) (a : α), entries[k]? = some (some a) → look (start + k) = a

variable {start i : Nat} {a : α} {front back entries : List (Option α)} {look : Nat → α}

theorem entryAt_of_lt (h : i < start) : entryAt start entries i = none := if_neg (Nat.not_le.2 h)

theorem entryAt_of_length_le (h : start + entries.length ≤ i) : entryAt start entries i = none := by
  rw [entryAt, List.getElem?_eq_none (by omega)]
  split <;> rfl

theorem entryAt_nil : entryAt start ([] : List (Option α)) = fun _ => none := by
  funext i
  unfold entryAt
  split <;> rfl

theorem entryAt_replicate_none {n : Nat} :
    entryAt start (List.replicate n (none : Option α)) = fun _ => none := by
  funext i
  rw [entryAt, List.getElem?_replicate]
  split
  · split <;> rfl
  · rfl

theorem entryAt_cons {a : Option α} :
    entryAt start (a :: entries) i = if i = start then a else entryAt (start + 1) entries i := by
  unfold entryAt
  by_cases hi : i = start
  · subst hi
    rw [if_pos (Nat.le_refl i), if_pos rfl, Nat.sub_self]
    rfl
  · rw [if_neg hi]
    by_cases hlt : start + 1 ≤ i
    · rw [if_pos hlt, if_pos (by omega), show i - start = i - (start + 1) + 1 by omega]
      rfl
    · rw [if_neg hlt, if_neg (by omega)]

theorem entryAt_append :
    entryAt start (front ++ back) i =
      (entryAt (start + front.length) back i).or (entryAt start front i) := by
  induction front generalizing start with
  | nil => rw [entryAt_nil, Option.or_none]; rfl
  | cons a front ih =>
      rw [List.cons_append, entryAt_cons, entryAt_cons, ih, List.length_cons, Nat.add_right_comm,
        ← Nat.add_assoc]
      by_cases hi : i = start
      · rw [if_pos hi, if_pos hi, entryAt_of_lt (by omega), Option.none_or]
      · rw [if_neg hi, if_neg hi]

theorem entryAt_zero (h : i < entries.length) : entryAt 0 entries i = entries[i] := by
  rw [entryAt, if_pos (Nat.zero_le i), Nat.sub_zero, List.getElem?_eq_getElem h]
  rfl

theorem reads_cons_some :
    Reads look start (some a :: entries) ↔ look start = a ∧ Reads look (start + 1) entries := by
  constructor
  · intro h
    refine ⟨h 0 a rfl, fun k b hb => ?_⟩
    rw [Nat.add_right_comm]
    exact h (k + 1) b hb
  · rintro ⟨hfirst, hrest⟩ k b hb
    cases k with
    | zero => exact hfirst.trans (Option.some.inj (Option.some.inj hb))
    | succ k =>
        have hlook := hrest k b hb
        rwa [Nat.add_right_comm] at hlook

theorem reads_append :
    Reads look start (front ++ back) ↔
      Reads look start front ∧ Reads look (start + front.length) back := by
  constructor
  · intro h
    constructor
    · intro k b hb
      refine h k b ?_
      rw [List.getElem?_append_left (List.getElem?_eq_some_iff.1 hb).1, hb]
    · intro k b hb
      rw [Nat.add_assoc]
      refine h (front.length + k) b ?_
      rw [List.getElem?_append_right (Nat.le_add_right ..), Nat.add_sub_cancel_left, hb]
  · rintro ⟨hfront, hback⟩ k b hb
    by_cases hk : k < front.length
    · rw [List.getElem?_append_left hk] at hb
      exact hfront k b hb
    · rw [List.getElem?_append_right (Nat.not_lt.1 hk)] at hb
      have hlook := hback _ b hb
      rwa [Nat.add_assoc, Nat.add_sub_cancel' (Nat.not_lt.1 hk)] at hlook

/-! ## Writing over a list -/

/-- A list with some of its entries written over. -/
def overlay (write : β → α → β) (found : Nat → Option α) (l : List β) : List β :=
  l.mapIdx fun i b => (found i).elim b (write b)

variable (write : β → α → β) {found found' : Nat → Option α}

theorem overlay_none (l : List β) : overlay write (fun _ => none) l = l := by
  rw [overlay, List.mapIdx_eq_iff]
  intro i
  exact Option.map_id'.symm

/-- Of two values written, the later one stays. -/
theorem overlay_overlay (hwrite : ∀ b a a', write (write b a) a' = write b a') (l : List β) :
    overlay write found' (overlay write found l) =
      overlay write (fun i => (found' i).or (found i)) l := by
  rw [overlay, overlay, List.mapIdx_mapIdx, overlay]
  congr 1
  funext i b
  dsimp only [Function.comp]
  cases found i with
  | none => rw [Option.or_none]; rfl
  | some a =>
      cases found' i with
      | none => rfl
      | some a' => exact hwrite b a a'

theorem modify_eq_overlay (index : Nat) (a : α) (l : List β) :
    l.modify index (fun b => write b a) =
      overlay write (fun i => if i = index then some a else none) l := by
  apply List.ext_getElem?
  intro i
  rw [List.getElem?_modify, overlay, List.getElem?_mapIdx, Option.map_eq_map]
  congr 1
  funext b
  by_cases hi : i = index
  · rw [if_pos hi.symm, if_pos hi]
    rfl
  · rw [if_neg (Ne.symm hi), if_neg hi]
    rfl

/-- What writing leaves alone. -/
theorem map_getElem?_overlay {γ : Type} {f : β → γ} (hwrite : ∀ b a, f (write b a) = f b)
    (l : List β) (i : Nat) : (overlay write found l)[i]?.map f = l[i]?.map f := by
  rw [overlay, List.getElem?_mapIdx, Option.map_map]
  congr 1
  funext b
  dsimp only [Function.comp]
  cases found i with
  | none => rfl
  | some a => exact hwrite b a

end Panel
