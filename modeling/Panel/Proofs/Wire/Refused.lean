import Panel.Proofs.Wire.RoundTrip

/-!
# What is refused

* Operations that a profile allows are refused only for want of room: a number of bytes or of
  entries that its field cannot hold.
* What was written is refused only by players that do not accept its profile or have no room for
  its operations.
-/

namespace Panel

/-! ## Writing -/

/-- Whether a failure is about room and not about the profile. -/
def EncodeError.isOverflow : EncodeError → Bool
  | unsupportedOperation .. => false
  | tooLarge _ => true
  | tooManyEntries .. => true

open Wire

namespace Wire.Encoding

variable {e f : Encoding} {es : List Encoding}

/-- If it fails, then for want of room. -/
def Overflows (e : Encoding) : Prop := ∀ error, e.failure = some error → error.isOverflow = true

theorem overflows_of_none (h : e.failure = none) : e.Overflows := by
  intro error herror
  rw [h] at herror
  contradiction

theorem Overflows.append (he : e.Overflows) (hf : f.Overflows) : (e ++ f).Overflows := by
  intro error herror
  obtain ⟨bytes, _ | first⟩ := e
  · exact hf error herror
  · exact he error herror

theorem Overflows.concat (h : ∀ e ∈ es, e.Overflows) : (concat es).Overflows := by
  induction es with
  | nil => exact overflows_of_none rfl
  | cons e es ih =>
      rw [List.forall_mem_cons] at h
      exact h.1.append (ih h.2)

theorem overflows_text (text : String) : (Encoding.text text).Overflows := by
  unfold Encoding.text
  split
  · exact overflows_of_none rfl
  · rintro error ⟨⟩
    rfl

theorem overflows_idList (what : String) (ids : List UInt32) : (idList what ids).Overflows := by
  unfold idList
  split
  · exact overflows_of_none rfl
  · rintro error ⟨⟩
    rfl

end Wire.Encoding

open Encoding

theorem Expression.overflows_encoding (e : Expression) : e.encoding.Overflows := by
  unfold encoding
  split
  · apply (overflows_of_none rfl).append
    apply overflows_of_none
    rw [failure_concat, List.forall_mem_map]
    intro token _
    cases token <;> rfl
  · rintro error ⟨⟩
    rfl

theorem Operation.overflows_encoding (op : Operation) : op.encoding.Overflows := by
  apply (overflows_of_none rfl).append
  cases op with
  | value id v =>
      apply (overflows_of_none rfl).append
      cases v with
      | text text => exact overflows_text text
      | list items => exact overflows_idList _ _
      | _ => exact overflows_of_none rfl
  | name id text => exact (overflows_of_none rfl).append (overflows_text text)
  | derived d =>
      apply (overflows_of_none rfl).append
      cases hrecipe : d.recipe with
      | integer e => exact e.overflows_encoding
      | float e => exact e.overflows_encoding
      | _ => exact overflows_of_none rfl
  | component id kind =>
      apply (overflows_of_none rfl).append
      cases kind <;> exact overflows_of_none rfl
  | containerEnd => exact overflows_of_none rfl
  | modifier m =>
      cases m with
      | touchAction trigger actions =>
          exact (overflows_of_none rfl).append (overflows_idList _ _)
      | visibility source => cases source <;> exact overflows_of_none rfl
      | _ => exact overflows_of_none rfl
  | action a =>
      apply (overflows_of_none rfl).append
      cases heffect : a.effect <;> exact overflows_of_none rfl

/-- Operations that the profile allows fail only for want of room. -/
theorem Wire.isOverflow_of_encodeDocument {ops : List Operation} {profile : Profile}
    {error : EncodeError} (hallows : ∀ op ∈ ops, profile.allows op.opcode.code = true)
    (h : encodeDocument ops profile = .error error) : error.isOverflow = true := by
  rcases Result.bind_eq_error.1 h with h | ⟨body, -, h⟩
  · have hoverflows : (concat (ops.map (·.encodingUnder profile))).Overflows := by
      apply Overflows.concat
      rw [List.forall_mem_map]
      intro op hop
      rw [Operation.encodingUnder, if_pos (hallows op hop)]
      exact op.overflows_encoding
    unfold toExcept at h
    split at h
    · next failure hfailure =>
        cases h
        exact hoverflows _ hfailure
    · contradiction
  · split at h
    · contradiction
    · cases h
      rfl

/-! ## Reading -/

namespace Wire

/-- Operations that are spelled one by one are too many for a reader with less room. -/
theorem Read.operations_too_many {r r' : Reader} {profile : Profile} {limit fuel maximum : Nat}
    {ops : List Operation} {es : List Encoding} (hfuel : r.rest.length ≤ fuel)
    (hallows : ∀ op ∈ ops, profile.allows op.opcode.code = true)
    (hes : List.Forall₂ Operation.Spelling ops es) (hholds : r.Holds (.concat es) r')
    (hroom : maximum < ops.length) :
    ∃ r'', operations profile limit fuel maximum r = .error (.tooManyOperations limit) r'' := by
  induction hes generalizing r fuel maximum with
  | nil => contradiction
  | @cons op e ops es he hes ih =>
      obtain ⟨hallowed, hallows⟩ := List.forall_mem_cons.1 hallows
      obtain ⟨r₁, hfirst, hrest⟩ := Reader.holds_append.1 hholds
      have hshorter := hfirst.length_lt he
      obtain ⟨fuel, rfl⟩ : ∃ n, fuel = n + 1 := ⟨fuel - 1, by omega⟩
      obtain ⟨offset, _ | ⟨b, rest⟩⟩ := r
      · contradiction
      cases maximum with
      | zero => exact ⟨_, rfl⟩
      | succ maximum =>
          rw [List.length_cons] at hroom
          have hop := operation_eq_ok.2 ⟨hallowed, e, he, hfirst⟩
          have hless : maximum < ops.length := by omega
          have hbytes : r₁.rest.length ≤ fuel := by omega
          obtain ⟨r₂, htoo⟩ := ih hbytes hallows hrest hless
          exact ⟨r₂, (Result.run_bind_of_ok hop).trans (Result.run_bind_of_error htoo)⟩

/-- What was written for a profile is read back by every player, unless the player does not accept
the profile or has no room for the operations. -/
theorem decodeDocument_of_encodeDocument {profile : Profile} {ops : List Operation}
    {bytes : List UInt8} (hbuiltin : profile ∈ Profile.builtin)
    (hencode : encodeDocument ops profile = .ok bytes) (config : Config) :
    (∃ header, decodeDocument bytes config = .ok ⟨header, profile, ops⟩) ∨
      decodeDocument bytes config =
        .error (.incompatibleProfile profile.name config.profile.name) ∨
      decodeDocument bytes config = .error (.tooManyOperations config.maxOperations) := by
  obtain ⟨body, rfl, hlt, hallows, hconcat⟩ := encodeDocument_eq_ok.1 hencode
  let header : Header := ⟨profile.apiLevel, profile.id, .ofNat body.length⟩
  have hread : Header.read (header.bytes ++ body) = .ok (header, body) :=
    Header.read_eq_ok.2 rfl
  by_cases haccepts : config.profile.accepts profile = true
  · by_cases hroom : ops.length ≤ config.maxOperations
    · left
      exact ⟨header,
        decodeDocument_header_append hbuiltin hlt hallows hconcat haccepts hroom⟩
    · right
      right
      have hprofile : header.profile config = .ok profile :=
        Header.profile_eq_ok.2 ⟨Profile.apiLevel_le_max hbuiltin, hbuiltin, rfl,
          UInt16.le_refl _, haccepts⟩
      have hlength : body.length = header.length.toNat :=
        (UInt32.toNat_ofNat_of_lt' hlt).symm
      have hspelled : List.Forall₂ Operation.Spelling ops (ops.map (·.encoding)) := by
        rw [List.forall₂_map_right_iff]
        exact List.forall₂_same.2 fun op _ => op.spelling_encoding
      let start : Reader := ⟨Header.size, body⟩
      obtain ⟨r', -, hholds⟩ := (Reader.holds_to_end (r := start)).2 hconcat
      have htoo : ∃ r'', Read.operations profile config.maxOperations body.length
          config.maxOperations start = .error (.tooManyOperations config.maxOperations) r'' :=
        Read.operations_too_many (Nat.le_refl _) hallows hspelled hholds (Nat.lt_of_not_le hroom)
      obtain ⟨r'', htoo⟩ := htoo
      rw [decodeDocument, hread]
      show (header.profile config >>= _) = _
      rw [hprofile]
      show (if body.length ≠ header.length.toNat then _ else _) = _
      rw [if_neg (not_not_intro hlength)]
      dsimp only [start] at htoo
      dsimp only [pure, bind, Except.pure, Except.bind]
      rw [htoo]
      rfl
  · right
    left
    have hprofile : header.profile config =
        .error (.incompatibleProfile profile.name config.profile.name) := by
      have hid : Profile.byId? header.profileId = some profile :=
        Profile.byId?_eq_some_iff.2 ⟨hbuiltin, rfl⟩
      rw [Header.profile, if_neg (UInt16.not_lt.2 (Profile.apiLevel_le_max hbuiltin)), hid]
      dsimp only
      rw [if_neg (UInt16.not_lt.2 (UInt16.le_refl _)), if_neg haccepts]
    rw [decodeDocument, hread]
    show (header.profile config >>= _) = _
    rw [hprofile]
    rfl

end Wire

end Panel
