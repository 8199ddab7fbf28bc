import Panel.Guarded.Cursor
import Panel.Proofs.Wire.Forward

/-!
# Cursors never leave their buffer

A read through a cursor that stands within its buffer has an answer, and leaves the cursor within
the same buffer and not before where it was.  If every place in the buffer has an offset of 64 bits
then the answer is the one that the read from the front of the remaining bytes has.  Reads made of
such reads are such reads.
-/

namespace Panel.Wire

/-- The reader at the position of a cursor. -/
def Cursor.reader (c : Cursor) : Reader :=
  ⟨c.base.toNat + c.position, c.buffer.drop c.position⟩

/-- Every place in the buffer has an offset. -/
def Cursor.Exact (c : Cursor) : Prop := c.base.toNat + c.buffer.length < UInt64.size

/-- A cursor within its buffer, where no offset has to be found that is too large to have one. -/
structure Cursor.Within (c : Cursor) : Prop where
  position : c.position ≤ c.buffer.length
  exact : c.overflow = .stops → c.Exact

/-- A cursor that has come from another one, within the same buffer. -/
structure Cursor.Reached (c d : Cursor) : Prop where
  buffer : d.buffer = c.buffer
  base : d.base = c.base
  overflow : d.overflow = c.overflow
  le : c.position ≤ d.position
  within : d.Within

theorem Cursor.Reached.trans {c d e : Cursor} (h : c.Reached d) (h' : d.Reached e) :
    c.Reached e where
  buffer := h'.buffer.trans h.buffer
  base := h'.base.trans h.base
  overflow := h'.overflow.trans h.overflow
  le := Nat.le_trans h.le h'.le
  within := h'.within

theorem Cursor.Within.reached {c : Cursor} (h : c.Within) : c.Reached c :=
  ⟨rfl, rfl, rfl, Nat.le_refl _, h⟩

theorem Cursor.Reached.exact_iff {c d : Cursor} (h : c.Reached d) : d.Exact ↔ c.Exact := by
  rw [Exact, Exact, h.buffer, h.base]

namespace Guarded

variable {α β : Type} {m? : Guarded α} {m : Read α} {f? : α → Guarded β} {f : α → Read β} {a : α}
  {c d : Cursor} {error : DecodeError} {count : Nat}

/-! ## Running -/

theorem run_bind_of_ok (h : m? c = some (.ok a, d)) : (m? >>= f?) c = f? a d := by
  show Option.bind (m? c) _ = _
  rw [h]
  rfl

theorem run_bind_of_error (h : m? c = some (.error error, d)) :
    (m? >>= f?) c = some (.error error, d) := by
  show Option.bind (m? c) _ = _
  rw [h]
  rfl

theorem exists_of_run_bind {b : β} {e : Cursor} (h : (m? >>= f?) c = some (.ok b, e)) :
    ∃ a d, m? c = some (.ok a, d) ∧ f? a d = some (.ok b, e) := by
  rcases hm : m? c with _ | ⟨error | a, d⟩
  · have hnone : (m? >>= f?) c = none := by
      show Option.bind (m? c) _ = _
      rw [hm]
      rfl
    cases hnone.symm.trans h
  · cases (run_bind_of_error hm).symm.trans h
  · exact ⟨a, d, rfl, (run_bind_of_ok hm).symm.trans h⟩

/-- The outcome of a read from the front of the remaining bytes. -/
def outcome : Except DecodeError α → Reader → EStateM.Result DecodeError Reader α
  | .ok a, r => .ok a r
  | .error error, r => .error error r

/-- A read through this cursor has an answer, the one of a read from the front of the remaining
bytes if the offsets are exact. -/
def FollowsAt (c : Cursor) (m? : Guarded α) (m : Read α) : Prop :=
  ∃ result d, m? c = some (result, d) ∧ c.Reached d ∧
    (c.Exact → m c.reader = outcome result d.reader)

/-- A read through any cursor follows one from the front. -/
def Follows (m? : Guarded α) (m : Read α) : Prop := ∀ c : Cursor, c.Within → FollowsAt c m? m

theorem follows_pure (a : α) : Follows (pure a) (pure a) :=
  fun c hc => ⟨.ok a, c, rfl, hc.reached, fun _ => rfl⟩

theorem follows_throw (error : DecodeError) : Follows (throw error : Guarded α) (throw error) :=
  fun c hc => ⟨.error error, c, rfl, hc.reached, fun _ => rfl⟩

theorem Follows.reached (h : Follows m? m) (hc : c.Within) (hrun : m? c = some (.ok a, d)) :
    c.Reached d := by
  obtain ⟨_, _, hrun', hreached, -⟩ := h c hc
  cases hrun'.symm.trans hrun
  exact hreached

/-- What comes after a read may use what the read has come to. -/
theorem FollowsAt.bind (h : FollowsAt c m? m)
    (hf : ∀ a d, c.Reached d → m? c = some (.ok a, d) → (c.Exact → m c.reader = .ok a d.reader) →
      FollowsAt d (f? a) (f a)) :
    FollowsAt c (m? >>= f?) (m >>= f) := by
  obtain ⟨result, d, hrun, hreached, hread⟩ := h
  cases result with
  | error error =>
      exact ⟨.error error, d, run_bind_of_error hrun, hreached,
        fun hexact => Result.run_bind_of_error (hread hexact)⟩
  | ok a =>
      obtain ⟨result, e, hrun', hreached', hread'⟩ := hf a d hreached hrun hread
      exact ⟨result, e, (run_bind_of_ok hrun).trans hrun', hreached.trans hreached', fun hexact =>
        (Result.run_bind_of_ok (hread hexact)).trans (hread' (hreached.exact_iff.2 hexact))⟩

theorem Follows.bind (h : Follows m? m) (hf : ∀ a, Follows (f? a) (f a)) :
    Follows (m? >>= f?) (m >>= f) :=
  fun c hc => (h c hc).bind fun a d hreached _ _ => hf a d hreached.within

/-- What leaves the cursor where it is does not touch the reader. -/
theorem FollowsAt.pass {n : Read β} (h : m? c = some (.ok a, c)) (hf : FollowsAt c (f? a) n) :
    FollowsAt c (m? >>= f?) n := by
  obtain ⟨result, d, hrun, hreached, hread⟩ := hf
  exact ⟨result, d, (run_bind_of_ok h).trans hrun, hreached, hread⟩

/-! ## Stretches of the buffer -/

theorem run_get : (get : Guarded Cursor) c = some (.ok c, c) := rfl

theorem run_lift {found : Option α} (h : found = some a) :
    (liftM found : Guarded α) c = some (.ok a, c) := by
  rw [h]
  rfl

/-- The sum of two sizes is found, unless it is too large where this stops the program. -/
theorem exists_run_sum (m n : Nat) (h : c.overflow = .stops → m + n < UInt64.size) :
    ∃ k, (liftM (c.overflow.sum? m n) : Guarded Nat) c = some (.ok k, c) ∧
      (m + n < UInt64.size → k = m + n) := by
  obtain ⟨k, hk, hsum⟩ := Overflow.exists_sum? h
  exact ⟨k, run_lift hk, hsum⟩

theorem exists_run_offset (hc : c.Within) :
    ∃ n, offset c = some (.ok n, c) ∧ (c.Exact → n = c.reader.offset) := by
  have hlt (hexact : c.Exact) : c.base.toNat + c.position < UInt64.size :=
    Nat.lt_of_le_of_lt (Nat.add_le_add_left hc.position _) hexact
  obtain ⟨n, hrun, hn⟩ := exists_run_sum _ _ fun hstops => hlt (hc.exact hstops)
  exact ⟨n, (run_bind_of_ok run_get).trans hrun, fun hexact => hn (hlt hexact)⟩

theorem follows_offset : Follows offset Read.offset := by
  intro c hc
  obtain ⟨n, hrun, hn⟩ := exists_run_offset hc
  exact ⟨.ok n, c, hrun, hc.reached, fun hexact => hn hexact ▸ rfl⟩

theorem length_reader (c : Cursor) : c.reader.rest.length = c.buffer.length - c.position :=
  List.length_drop

theorem run_remaining (h : c.position ≤ c.buffer.length) :
    remaining c = some (.ok (c.buffer.length - c.position), c) :=
  (run_bind_of_ok run_get).trans (run_lift (difference?_of_le h))

theorem run_isEmpty (h : c.position ≤ c.buffer.length) :
    isEmpty c = some (.ok c.reader.isEmpty, c) := by
  have hempty : decide (c.buffer.length - c.position = 0) = c.reader.isEmpty := by
    rw [Bool.eq_iff_iff, decide_eq_true_iff, Reader.isEmpty, List.isEmpty_iff_length_eq_zero,
      length_reader]
  rw [isEmpty, run_bind_of_ok (run_remaining h), hempty]
  rfl

/-- Bytes that are left are cut out within the bounds of the buffer. -/
theorem run_slice_of_le (h : c.position + count ≤ c.buffer.length) :
    slice count c =
      some (.ok (c.reader.rest.take count), { c with position := c.position + count }) := by
  rw [slice, run_bind_of_ok (run_remaining (Nat.le_of_add_right_le h)), if_neg (by omega)]
  refine (run_bind_of_ok run_get).trans ?_
  rw [run_bind_of_ok (run_lift (slice?_of_le h))]
  rfl

theorem exists_run_slice_of_lt (hc : c.Within) (h : c.buffer.length < c.position + count) :
    ∃ n, slice count c =
        some (.error (.truncated n (count - (c.buffer.length - c.position))), c) ∧
      (c.Exact → n = c.reader.offset) := by
  have hposition := hc.position
  obtain ⟨n, hrun, hn⟩ := exists_run_offset hc
  refine ⟨n, ?_, hn⟩
  rw [slice, run_bind_of_ok (run_remaining hposition), if_pos (by omega), run_bind_of_ok hrun,
    run_bind_of_ok (run_lift (difference?_of_le (by omega)))]
  rfl

theorem within_advance (hc : c.Within) (h : c.position + count ≤ c.buffer.length) :
    c.Reached { c with position := c.position + count } :=
  ⟨rfl, rfl, rfl, Nat.le_add_right _ _, h, hc.exact⟩

theorem reader_advance (c : Cursor) (count : Nat) :
    ({ c with position := c.position + count } : Cursor).reader =
      ⟨c.reader.offset + count, c.reader.rest.drop count⟩ := by
  simp [Cursor.reader, Nat.add_assoc]

theorem bytes_reader_of_le (h : c.position + count ≤ c.buffer.length) :
    Read.bytes count c.reader = .ok (c.reader.rest.take count)
      ({ c with position := c.position + count } : Cursor).reader := by
  have hlength := length_reader c
  rw [Read.bytes, reader_advance, if_neg (by rw [List.length_take]; omega)]

theorem bytes_reader_of_lt (hle : c.position ≤ c.buffer.length)
    (h : c.buffer.length < c.position + count) :
    Read.bytes count c.reader =
      .error (.truncated c.reader.offset (count - (c.buffer.length - c.position))) c.reader := by
  rw [← length_reader]
  exact Read.bytes_of_lt (by rw [length_reader]; omega)

theorem follows_slice (count : Nat) : Follows (slice count) (Read.bytes count) := by
  intro c hc
  rcases Nat.lt_or_ge c.buffer.length (c.position + count) with h | h
  · obtain ⟨n, hrun, hn⟩ := exists_run_slice_of_lt hc h
    exact ⟨_, c, hrun, hc.reached, fun hexact => hn hexact ▸ bytes_reader_of_lt hc.position h⟩
  · exact ⟨.ok _, _, run_slice_of_le h, within_advance hc h, fun _ => bytes_reader_of_le h⟩

/-- What was cut out has the length that it is copied with. -/
theorem run_array_of_le (h : c.position + count ≤ c.buffer.length) :
    array count c =
      some (.ok (c.reader.rest.take count), { c with position := c.position + count }) := by
  have hlength := length_reader c
  rw [array, run_bind_of_ok (run_slice_of_le h)]
  exact run_lift (copy?_of_eq (List.length_take_of_le (by omega)))

theorem follows_array (width : Nat) : Follows (array width) (Read.bytes width) := by
  intro c hc
  rcases Nat.lt_or_ge c.buffer.length (c.position + width) with h | h
  · obtain ⟨n, hrun, hn⟩ := exists_run_slice_of_lt hc h
    exact ⟨_, c, run_bind_of_error hrun, hc.reached,
      fun hexact => hn hexact ▸ bytes_reader_of_lt hc.position h⟩
  · exact ⟨.ok _, _, run_array_of_le h, within_advance hc h, fun _ => bytes_reader_of_le h⟩

/-! ## Numbers -/

theorem exists_run_byte_of_lt (h : c.position < c.buffer.length) :
    ∃ b, c.reader.rest.take 1 = [b] ∧
      byte c = some (.ok b, { c with position := c.position + 1 }) := by
  have hlength := length_reader c
  obtain ⟨b, hb⟩ := List.length_eq_one_iff.1
    (List.length_take_of_le (show 1 ≤ c.reader.rest.length by omega))
  refine ⟨b, hb, ?_⟩
  rw [byte, run_bind_of_ok (run_array_of_le h), hb]
  rfl

theorem exists_run_byte_of_le (hc : c.Within) (h : c.buffer.length ≤ c.position) :
    ∃ n, byte c = some (.error (.truncated n (1 - (c.buffer.length - c.position))), c) ∧
      (c.Exact → n = c.reader.offset) := by
  have hlt : c.buffer.length < c.position + 1 := Nat.lt_succ_of_le h
  obtain ⟨n, hrun, hn⟩ := exists_run_slice_of_lt hc hlt
  exact ⟨n, run_bind_of_error (run_bind_of_error hrun), hn⟩

theorem follows_byte : Follows byte Read.byte := by
  intro c hc
  rcases Nat.lt_or_ge c.position c.buffer.length with h | h
  · obtain ⟨b, hb, hrun⟩ := exists_run_byte_of_lt h
    refine ⟨.ok b, _, hrun, within_advance hc h, fun _ => ?_⟩
    rw [Read.byte, Result.run_bind_of_ok (bytes_reader_of_le h), hb]
    simp [ofBytes, outcome]
    rfl
  · obtain ⟨n, hrun, hn⟩ := exists_run_byte_of_le hc h
    have hlt : c.buffer.length < c.position + 1 := Nat.lt_succ_of_le h
    have hread := bytes_reader_of_lt hc.position hlt
    exact ⟨_, c, hrun, hc.reached, fun hexact => hn hexact ▸ Result.run_bind_of_error hread⟩

/-- A byte that is read is passed over. -/
theorem position_lt_of_byte {b : UInt8} (hc : c.Within) (h : byte c = some (.ok b, d)) :
    c.position < d.position := by
  rcases Nat.lt_or_ge c.position c.buffer.length with hlt | hle
  · obtain ⟨_, -, hrun⟩ := exists_run_byte_of_lt hlt
    cases hrun.symm.trans h
    exact Nat.lt_succ_self _
  · obtain ⟨_, hrun, -⟩ := exists_run_byte_of_le hc hle
    cases hrun.symm.trans h

theorem follows_word16 : Follows word16 Read.word16 :=
  (follows_array 2).bind fun _ => follows_pure _

theorem follows_word32 : Follows word32 Read.word32 :=
  (follows_array 4).bind fun _ => follows_pure _

theorem follows_int32 : Follows int32 Read.int32 := follows_word32.bind fun _ => follows_pure _

theorem follows_single : Follows single Read.single := follows_word32.bind fun _ => follows_pure _

theorem follows_variableId : Follows variableId Read.variableId :=
  follows_word32.bind fun _ => follows_pure _

theorem follows_componentId : Follows componentId Read.componentId :=
  follows_word32.bind fun _ => follows_pure _

theorem follows_actionId : Follows actionId Read.actionId :=
  follows_word32.bind fun _ => follows_pure _

/-! ## Fields with a length -/

/-- A read that fails only for want of bytes. -/
def Starves (m : Read α) : Prop :=
  ∀ ⦃r r' : Reader⦄ ⦃error : DecodeError⦄, m r = .error error r' → error.isTruncated = true

/-- A read that fails only for want of bytes, and then takes none. -/
def Sticks (m : Read α) : Prop :=
  ∀ ⦃r r' : Reader⦄ ⦃error : DecodeError⦄, m r = .error error r' →
    error.isTruncated = true ∧ r' = r

theorem Starves.map (h : Starves m) (g : α → β) : Starves (do return g (← m)) := by
  intro r r' error hm
  rcases Read.bind_eq_error.1 hm with hm | ⟨_, _, _, hpure⟩
  · exact h hm
  · contradiction

theorem Sticks.map (h : Sticks m) (g : α → β) : Sticks (do return g (← m)) := by
  intro r r' error hm
  rcases Read.bind_eq_error.1 hm with hm | ⟨_, _, _, hpure⟩
  · exact h hm
  · contradiction

theorem sticks_bytes (count : Nat) : Sticks (Read.bytes count) := by
  intro r r' error hm
  unfold Read.bytes at hm
  dsimp only at hm
  split at hm
  · obtain ⟨rfl, rfl⟩ := EStateM.Result.error.inj hm
    exact ⟨rfl, rfl⟩
  · contradiction

theorem starves_bytes (count : Nat) : Starves (Read.bytes count) :=
  fun _ _ _ hm => (sticks_bytes _ hm).1

theorem run_returning_of_ok {position : Nat} (h : m? c = some (.ok a, d)) :
    returning position m? c = some (.ok a, d) := by
  show Option.bind (m? c) _ = _
  rw [h]
  rfl

theorem run_returning_of_error {position : Nat} (h : m? c = some (.error error, d)) :
    returning position m? c = some (.error error, { d with position }) := by
  show Option.bind (m? c) _ = _
  rw [h]
  rfl

theorem run_resuming_of_ok {r r' : Reader} (h : m r = .ok a r') :
    Read.resuming m r = .ok a r' :=
  Read.resuming_eq_ok.2 h

theorem run_resuming_of_error {r r' : Reader} (h : m r = .error error r')
    (hshort : error.isTruncated = true) : Read.resuming m r = .error error r := by
  rw [Read.resuming, h]
  cases error <;> first | rfl | contradiction

/-- A field behind its prefix.  If one of them does not fit then the cursor stands before both. -/
theorem Follows.prefixed (hfirst : Follows m? m) (hsticks : Sticks m)
    (hfield : ∀ a, Follows (f? a) (f a)) (hstarves : ∀ a, Starves (f a)) :
    Follows (prefixed m? f?) (Read.resuming (m >>= f)) := by
  intro c hc
  obtain ⟨result, d, hrun, hreached, hread⟩ := hfirst c hc
  cases result with
  | error error =>
      refine ⟨.error error, d, (run_bind_of_ok run_get).trans (run_bind_of_error hrun), hreached,
        fun hexact => ?_⟩
      obtain ⟨hshort, hreader⟩ := hsticks (hread hexact)
      rw [hreader]
      exact run_resuming_of_error (Result.run_bind_of_error (hread hexact)) hshort
  | ok a =>
      obtain ⟨result, e, hrun', hreached', hread'⟩ := hfield a d hreached.within
      have hboth (hexact : c.Exact) : (m >>= f) c.reader = outcome result e.reader :=
        (Result.run_bind_of_ok (hread hexact)).trans (hread' (hreached.exact_iff.2 hexact))
      cases result with
      | error error =>
          have hback : ({ e with position := c.position } : Cursor) = c := by
            have htrans := hreached.trans hreached'
            rw [htrans.buffer, htrans.base, htrans.overflow]
          refine ⟨.error error, c, ?_, hc.reached, fun hexact => ?_⟩
          · rw [Guarded.prefixed, run_bind_of_ok run_get, run_bind_of_ok hrun,
              run_returning_of_error hrun', hback]
          · have hshort := hstarves a (hread' (hreached.exact_iff.2 hexact))
            exact run_resuming_of_error (hboth hexact) hshort
      | ok b =>
          refine ⟨.ok b, e, ?_, hreached.trans hreached', fun hexact =>
            run_resuming_of_ok (hboth hexact)⟩
          rw [Guarded.prefixed, run_bind_of_ok run_get, run_bind_of_ok hrun,
            run_returning_of_ok hrun']

theorem follows_text : Follows text Read.text := by
  have hfield (length : UInt32) :
      Follows (do return (← offset, ← slice length.toNat))
        (do return (← Read.offset, ← Read.bytes length.toNat)) :=
    follows_offset.bind fun _ => (follows_slice _).bind fun _ => follows_pure _
  have hstarves (length : UInt32) :
      Starves (do return (← Read.offset, ← Read.bytes length.toNat)) := by
    intro r r' error h
    rcases Read.bind_eq_error.1 h with h | ⟨_, _, _, h⟩
    · contradiction
    · exact (starves_bytes _).map _ h
  refine (follows_word32.prefixed ((sticks_bytes 4).map _) hfield hstarves).bind fun field => ?_
  obtain ⟨first, found⟩ := field
  dsimp only
  cases String.fromUTF8? ⟨found.toArray⟩ with
  | some s => exact follows_pure s
  | none => exact follows_throw _

theorem words_of_four_le {front : List UInt8} (h : 4 ≤ front.length) :
    Read.words front = .ofNat (ofBytes (front.take 4)) :: Read.words (front.drop 4) := by
  obtain _ | ⟨_, _ | ⟨_, _ | ⟨_, _ | ⟨_, rest⟩⟩⟩⟩ := front
  · contradiction
  · contradiction
  · contradiction
  · contradiction
  · rfl

theorem run_word32 (h : c.position + 4 ≤ c.buffer.length) :
    word32 c = some (.ok (.ofNat (ofBytes (c.reader.rest.take 4))),
      { c with position := c.position + 4 }) :=
  run_bind_of_ok (run_array_of_le h)

/-- Words that are left are read one by one, where the bytes of all of them would be taken. -/
theorem run_words (h : c.position + 4 * count ≤ c.buffer.length) :
    words count c = some (.ok (Read.words (c.reader.rest.take (4 * count))),
      { c with position := c.position + 4 * count }) := by
  induction count generalizing c with
  | zero => rfl
  | succ count ih =>
      have hlength := length_reader c
      have hall : Read.words (c.reader.rest.take (4 * (count + 1))) =
          .ofNat (ofBytes (c.reader.rest.take 4)) ::
            Read.words ((c.reader.rest.drop 4).take (4 * count)) := by
        rw [words_of_four_le (by rw [List.length_take]; omega), List.take_take, List.drop_take,
          Nat.min_eq_left (by omega), Nat.mul_succ, Nat.add_sub_cancel]
      have hnext := ih (c := { c with position := c.position + 4 }) (by dsimp only; omega)
      rw [words, run_bind_of_ok (run_word32 (by omega)), run_bind_of_ok hnext, reader_advance, hall]
      rw [Nat.mul_succ, Nat.add_comm (4 * count), ← Nat.add_assoc]
      rfl

theorem follows_entries (count : Nat) :
    Follows (entries count) (do return Read.words (← Read.bytes (4 * count))) := by
  intro c hc
  have hposition := hc.position
  have hleft : entries count c = _ := run_bind_of_ok (run_remaining hposition)
  rcases Nat.lt_or_ge c.buffer.length (c.position + 4 * count) with h | h
  · obtain ⟨n, hrun, hn⟩ := exists_run_offset hc
    refine ⟨.error (.truncated n (4 * count - (c.buffer.length - c.position))), c, ?_, hc.reached,
      fun hexact => hn hexact ▸ Result.run_bind_of_error (bytes_reader_of_lt hposition h)⟩
    rw [hleft, if_pos (by omega), run_bind_of_ok hrun,
      run_bind_of_ok (run_lift (difference?_of_le (by omega))), Nat.mul_comm]
    rfl
  · refine ⟨.ok _, _, ?_, within_advance hc h,
      fun _ => Result.run_bind_of_ok (bytes_reader_of_le h)⟩
    rw [hleft, if_neg (by omega)]
    exact run_words h

theorem follows_idList : Follows idList Read.idList :=
  follows_word16.prefixed ((sticks_bytes 2).map _) (fun _ => follows_entries _)
    fun _ => (starves_bytes _).map _

/-! ## Codes -/

theorem follows_coded (ofCode? : UInt8 → Option α) (reason : String) :
    Follows (coded ofCode? reason) (Read.coded ofCode? reason) := by
  refine follows_offset.bind fun start => follows_byte.bind fun code => ?_
  cases ofCode? code with
  | some value => exact follows_pure value
  | none => exact follows_throw _

end Guarded

end Panel.Wire
