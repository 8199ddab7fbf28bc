import Panel.Proofs.Wire.Forward
import Panel.Proofs.Wire.RoundTrip

/-!
# Bodies that are cut off or go on

A buffer may hold only a front part of what was written, or more than what is wrong with it.

* What was written and cut off between two operations is read as the operations before.  Cut off
  anywhere else, it fails for want of bytes, and for no more of them than were cut off.
* A body that is refused for what its bytes are is refused for the same, at the same place, however
  it goes on.
-/

namespace Panel

/-- Whether the bytes of an operation are to blame, and not how many of them there are. -/
def DecodeError.isMalformed : DecodeError → Bool
  | unknownOpcode .. => true
  | unsupportedOperation .. => true
  | invalidOperand .. => true
  | malformedExpression _ => true
  | _ => false

/-- The offset that a failure reports on, if it reports on one. -/
def DecodeError.offset? : DecodeError → Option Nat
  | unknownOpcode _ offset => some offset
  | unsupportedOperation _ offset => some offset
  | truncated offset _ => some offset
  | invalidOperand offset _ => some offset
  | malformedExpression offset => some offset
  | _ => none

theorem DecodeError.offset?_of_isMalformed {e : DecodeError} (h : e.isMalformed = true) :
    e.offset? ≠ none := by
  cases e <;> simp_all [isMalformed, offset?]

theorem DecodeError.isTruncated_of_isMalformed {e : DecodeError} (h : e.isMalformed = true) :
    e.isTruncated = false := by
  cases e <;> first | rfl | contradiction

namespace Wire

/-- A body under a header that declares its length. -/
def Header.document (h : Header) (body : List UInt8) : List UInt8 :=
  { h with length := .ofNat body.length }.bytes ++ body

/-- The number of bytes of the first `j` of some operations. -/
def boundary (ops : List Operation) (j : Nat) : Nat :=
  ((ops.take j).flatMap (·.encoding.bytes)).length

/-! ## Operations -/

namespace Read

variable {profile : Profile} {limit fuel maximum start : Nat} {op : Operation}
  {ops : List Operation} {front back bytes : List UInt8} {e : DecodeError} {r' : Reader}

/-- An operation that is written is taken, byte by byte. -/
theorem takes_operation (hallows : profile.allows op.opcode.code = true)
    (hwritten : op.encoding.failure = none) (start : Nat) :
    (operation profile).Takes start op.encoding.bytes op := by
  let r : Reader := ⟨start, op.encoding.bytes⟩
  have hholds : r.Holds op.encoding ⟨start + op.encoding.bytes.length, []⟩ :=
    ⟨hwritten, (List.append_nil _).symm, rfl⟩
  have hread := operation_eq_ok.2 ⟨hallows, _, op.spelling_encoding, hholds⟩
  obtain ⟨used, hused, htakes⟩ := (forward_operation profile).takes hread
  rw [List.append_nil] at hused
  rwa [← hused] at htakes

theorem operations_cons (b : UInt8) (rest : List UInt8) :
    operations profile limit (fuel + 1) (maximum + 1) ⟨start, b :: rest⟩ =
      (operation profile >>= fun op => operations profile limit fuel maximum >>= fun ops =>
        pure (op :: ops)) ⟨start, b :: rest⟩ := rfl

/-- Written operations that are cut off inside of one run out. -/
theorem operations_runsOut (hallows : ∀ op ∈ ops, profile.allows op.opcode.code = true)
    (hwritten : ∀ op ∈ ops, op.encoding.failure = none)
    (hbody : ops.flatMap (·.encoding.bytes) = front ++ back) (hfuel : front.length ≤ fuel)
    (hroom : ops.length ≤ maximum)
    (hinside : ∀ j ≤ ops.length, front ≠ (ops.take j).flatMap (·.encoding.bytes)) :
    (operations profile limit fuel maximum).RunsOut ⟨start, front⟩ back.length := by
  induction ops generalizing start front fuel maximum with
  | nil =>
      exact absurd (List.append_eq_nil_iff.1 hbody.symm).1 (hinside 0 (Nat.le_refl 0))
  | cons op ops ih =>
      obtain ⟨hallowed, hallows⟩ := List.forall_mem_cons.1 hallows
      obtain ⟨hfirst, hwritten⟩ := List.forall_mem_cons.1 hwritten
      have htakes := takes_operation hallowed hfirst start
      obtain ⟨b, tail, rfl⟩ : ∃ b tail, front = b :: tail :=
        List.exists_cons_of_ne_nil (hinside 0 (Nat.zero_le _))
      obtain ⟨fuel, rfl⟩ : ∃ n, fuel = n + 1 :=
        Nat.exists_eq_add_one.2 (Nat.lt_of_lt_of_le (Nat.zero_lt_succ _) hfuel)
      obtain ⟨maximum, rfl⟩ : ∃ n, maximum = n + 1 :=
        Nat.exists_eq_add_one.2 (Nat.lt_of_lt_of_le (Nat.zero_lt_succ _) hroom)
      rw [RunsOut, operations_cons]
      rw [List.flatMap_cons] at hbody
      rcases List.append_eq_append_iff.1 hbody with ⟨c, hfront, hrest⟩ | ⟨c, hop, hrest⟩
      · have hlater : ∀ j ≤ ops.length, c ≠ (ops.take j).flatMap (·.encoding.bytes) := by
          rintro j hj rfl
          apply hinside (j + 1) (Nat.succ_le_succ hj)
          rw [hfront, List.take_succ_cons, List.flatMap_cons]
        have hlength := congrArg List.length hfront
        have hpos : 0 < op.encoding.bytes.length := Nat.zero_lt_succ _
        rw [List.length_append, List.length_cons] at hlength
        rw [List.length_cons] at hfuel hroom
        have hshorter : c.length ≤ fuel := by omega
        rw [hfront]
        apply htakes.runsOut_bind
        apply RunsOut.bind
        exact ih hallows hwritten hrest hshorter (Nat.le_of_succ_le_succ hroom) hlater
      · have hc : c ≠ [] := by
          rintro rfl
          apply hinside 1 (Nat.succ_le_succ (Nat.zero_le _))
          rw [List.take_succ_cons, List.take_zero, List.flatMap_cons, List.flatMap_nil, hop,
            List.append_nil, List.append_nil]
        apply ((htakes.cut _ c hop hc).bind _).mono
        rw [hrest, List.length_append]
        exact Nat.le_add_right _ _

/-- What is wrong with some bytes stays wrong with them if more follow. -/
theorem operations_append_error {fuel' : Nat}
    (h : operations profile limit fuel maximum ⟨start, bytes⟩ = .error e r')
    (he : e.isMalformed = true) (hfuel : fuel ≤ fuel') (more : List UInt8) :
    ∃ r'', operations profile limit fuel' maximum ⟨start, bytes ++ more⟩ = .error e r'' := by
  induction fuel generalizing start bytes maximum fuel' with
  | zero => contradiction
  | succ fuel ih =>
      obtain ⟨fuel', rfl⟩ : ∃ n, fuel' = n + 1 :=
        Nat.exists_eq_add_one.2 (Nat.lt_of_lt_of_le (Nat.zero_lt_succ _) hfuel)
      cases bytes with
      | nil => contradiction
      | cons b bytes =>
          cases maximum with
          | zero =>
              cases h
              contradiction
          | succ maximum =>
              rw [operations_cons] at h
              rw [List.cons_append, operations_cons, ← List.cons_append]
              rcases bind_eq_error.1 h with h | ⟨op, r₁, hop, h⟩
              · have hfirst := (forward_operation profile).error h
                  (DecodeError.isTruncated_of_isMalformed he) more
                obtain ⟨r'', hrun⟩ := hfirst
                exact ⟨r'', Result.run_bind_of_error hrun⟩
              · rcases bind_eq_error.1 h with h | ⟨ops, r₂, -, h⟩
                · obtain ⟨r'', hrun⟩ := ih h (Nat.le_of_succ_le_succ hfuel)
                  refine ⟨r'', ?_⟩
                  rw [Result.run_bind_of_ok ((forward_operation profile).append hop more)]
                  exact Result.run_bind_of_error hrun
                · contradiction

end Read

/-! ## Documents -/

variable {header : Header} {profile : Profile} {config : Config} {ops : List Operation}
  {bytes body : List UInt8} {e : DecodeError}

/-- A body is read under a header that passes, unless it is too long for any header. -/
theorem decodeDocument_document (header : Header) (body : List UInt8) (config : Config) :
    decodeDocument (header.document body) config = (do
      let profile ← header.profile config
      if body.length < capacity 4 then
        match Read.operations profile config.maxOperations body.length config.maxOperations
          ⟨Header.size, body⟩ with
        | .ok ops _ => .ok ⟨{ header with length := .ofNat body.length }, profile, ops⟩
        | .error e _ => .error e
      else .error (.lengthMismatch (.ofNat body.length) body.length)) := by
  have hread := Header.read_bytes { header with length := .ofNat body.length } body
  have hfits : body.length ≠ (UInt32.ofNat body.length).toNat ↔ ¬body.length < capacity 4 := by
    constructor
    · exact mt fun hlt => (UInt32.toNat_ofNat_of_lt' hlt).symm
    · intro hlong heq
      exact hlong (heq ▸ (UInt32.ofNat body.length).toNat_lt)
  rw [decodeDocument, Header.document, hread]
  show (header.profile config >>= _) = _
  congr 1
  funext profile
  by_cases hlt : body.length < capacity 4
  · rw [if_pos hlt]
    show (if body.length ≠ (UInt32.ofNat body.length).toNat then _ else _) = _
    rw [if_neg (hfits.not.2 (not_not_intro hlt))]
    rfl
  · rw [if_neg hlt]
    show (if body.length ≠ (UInt32.ofNat body.length).toNat then _ else _) = _
    rw [if_pos (hfits.2 hlt)]
    rfl

theorem Header.offset?_of_profile (h : header.profile config = .error e) : e.offset? = none := by
  unfold Header.profile at h
  split at h
  · cases h
    rfl
  · split at h
    · cases h
      rfl
    · split at h
      · cases h
        rfl
      · split at h
        · contradiction
        · cases h
          rfl

/-- A place in the body is reported only under a header that passes. -/
theorem operations_of_decodeDocument_error
    (h : decodeDocument (header.document body) config = .error e) (he : e.offset? ≠ none) :
    ∃ profile r', header.profile config = .ok profile ∧
      Read.operations profile config.maxOperations body.length config.maxOperations
        ⟨Header.size, body⟩ = .error e r' := by
  rw [decodeDocument_document, Result.bind_eq_error] at h
  rcases h with h | ⟨profile, hprofile, h⟩
  · exact absurd (Header.offset?_of_profile h) he
  · split at h
    · split at h
      · contradiction
      · next error r' hrun =>
          cases h
          exact ⟨profile, r', hprofile, hrun⟩
    · cases h
      contradiction

/-- A body that is refused for what its bytes are is refused for the same if it goes on. -/
theorem decodeDocument_append_error
    (h : decodeDocument (header.document body) config = .error e) (he : e.isMalformed = true)
    {more : List UInt8} (hlt : (body ++ more).length < capacity 4) :
    decodeDocument (header.document (body ++ more)) config = .error e := by
  obtain ⟨profile, r', hprofile, hrun⟩ :=
    operations_of_decodeDocument_error h (DecodeError.offset?_of_isMalformed he)
  have hlonger : body.length ≤ (body ++ more).length := by
    rw [List.length_append]
    exact Nat.le_add_right _ _
  obtain ⟨r'', hrun⟩ := Read.operations_append_error hrun he hlonger more
  rw [decodeDocument_document, hprofile]
  show (if _ then _ else _) = _
  rw [if_pos hlt, hrun]

/-! ## What was written, cut off -/

theorem take_boundary (ops : List Operation) (j : Nat) :
    (ops.flatMap (·.encoding.bytes)).take (boundary ops j) =
      (ops.take j).flatMap (·.encoding.bytes) := by
  have hsplit : ops.flatMap (·.encoding.bytes) = (ops.take j).flatMap (·.encoding.bytes) ++
      (ops.drop j).flatMap (·.encoding.bytes) := by
    rw [← List.flatMap_append, List.take_append_drop]
  rw [hsplit, boundary, List.take_left]

/-- Of a written document that is cut off between two operations, the operations before are
read. -/
theorem decodeDocument_take_boundary (hbuiltin : profile ∈ Profile.builtin)
    (hencode : encodeDocument ops profile = .ok bytes)
    (haccepts : config.profile.accepts profile = true) (hroom : ops.length ≤ config.maxOperations)
    (length : UInt32) (j : Nat) :
    decodeDocument (Header.document ⟨profile.apiLevel, profile.id, length⟩
      ((bytes.drop Header.size).take (boundary ops j))) config =
        .ok ⟨⟨profile.apiLevel, profile.id, .ofNat (boundary ops j)⟩, profile, ops.take j⟩ := by
  obtain ⟨hbody, hlt, hallows, hwritten⟩ := body_of_encodeDocument hencode
  have hconcat : Encoding.concat ((ops.take j).map (·.encoding)) =
      .ofBytes ((ops.take j).flatMap (·.encoding.bytes)) := by
    rw [Encoding.concat_eq_ofBytes, List.flatMap_map]
    rw [List.forall_mem_map]
    exact fun op hop => hwritten op (List.mem_of_mem_take hop)
  have hshorter : ((ops.take j).flatMap (·.encoding.bytes)).length < capacity 4 := by
    rw [← take_boundary]
    exact Nat.lt_of_le_of_lt (List.length_take_le' _ _) hlt
  rw [hbody, take_boundary]
  refine decodeDocument_header_append hbuiltin hshorter ?_ hconcat haccepts ?_
  · exact fun op hop => hallows op (List.mem_of_mem_take hop)
  · exact Nat.le_trans (List.length_take_le' _ _) hroom

/-- A written document that is cut off inside of an operation ends too early, by no more bytes than
were cut off. -/
theorem decodeDocument_take_inside (hbuiltin : profile ∈ Profile.builtin)
    (hencode : encodeDocument ops profile = .ok bytes)
    (haccepts : config.profile.accepts profile = true) (hroom : ops.length ≤ config.maxOperations)
    (length : UInt32) {k : Nat} (hk : k < (bytes.drop Header.size).length)
    (hinside : ∀ j ≤ ops.length, k ≠ boundary ops j) :
    ∃ offset needed, decodeDocument (Header.document ⟨profile.apiLevel, profile.id, length⟩
      ((bytes.drop Header.size).take k)) config = .error (.truncated offset needed) ∧
        offset ≤ Header.size + k ∧ 1 ≤ needed ∧ k + needed ≤ (bytes.drop Header.size).length := by
  obtain ⟨hbody, hlt, hallows, hwritten⟩ := body_of_encodeDocument hencode
  rw [hbody] at hk ⊢
  let body := ops.flatMap (·.encoding.bytes)
  have htake : (body.take k).length = k := List.length_take_of_le (Nat.le_of_lt hk)
  have hdrop : (body.drop k).length = body.length - k := List.length_drop
  have hfront : ∀ j ≤ ops.length, body.take k ≠ (ops.take j).flatMap (·.encoding.bytes) := by
    intro j hj heq
    apply hinside j hj
    rw [boundary, ← heq, htake]
  have hshort : (Read.operations profile config.maxOperations (body.take k).length
      config.maxOperations).RunsOut ⟨Header.size, body.take k⟩ (body.drop k).length :=
    Read.operations_runsOut hallows hwritten (List.take_append_drop k body).symm (Nat.le_refl _)
      hroom hfront
  obtain ⟨offset, needed, r', hrun, hoffset, hpos, hneeded⟩ := hshort
  have hprofile : Header.profile config ⟨profile.apiLevel, profile.id, length⟩ = .ok profile :=
    Header.profile_eq_ok.2 ⟨Profile.apiLevel_le_max hbuiltin, hbuiltin, rfl, UInt16.le_refl _,
      haccepts⟩
  refine ⟨offset, needed, ?_, ?_, hpos, ?_⟩
  · rw [decodeDocument_document, hprofile]
    show (if _ then _ else _) = _
    rw [if_pos (Nat.lt_of_le_of_lt (List.length_take_le' _ _) hlt), hrun]
  · rw [htake] at hoffset
    exact hoffset
  · rw [hdrop] at hneeded
    exact (Nat.le_sub_iff_add_le' (Nat.le_of_lt hk)).1 hneeded

/-- What becomes of bodies that are cut off or go on, under headers that declare their length.

Of a written document, any front part of the body is read as the first operations if it ends where
they end; otherwise it is refused as too short, at a place within it, and for no more bytes than
were cut off.  A body that is refused for an operation that is not known, not allowed or does not
make sense is refused for the same, at the same place, whatever follows it. -/
theorem decodeDocument_cut_or_extended :
    (∀ profile ∈ Profile.builtin, ∀ (ops : List Operation) (bytes : List UInt8) (config : Config),
      encodeDocument ops profile = .ok bytes → config.profile.accepts profile = true →
      ops.length ≤ config.maxOperations →
      let header : Header := ⟨profile.apiLevel, profile.id, 0⟩
      let body := bytes.drop Header.size
      ∀ k < body.length,
        (∀ j ≤ ops.length, k = boundary ops j →
          decodeDocument (header.document (body.take k)) config =
            .ok ⟨{ header with length := .ofNat k }, profile, ops.take j⟩) ∧
        ((∀ j ≤ ops.length, k ≠ boundary ops j) → ∃ offset needed,
          decodeDocument (header.document (body.take k)) config =
            .error (.truncated offset needed) ∧
          offset ≤ Header.size + k ∧ 1 ≤ needed ∧ k + needed ≤ body.length)) ∧
    ∀ (header : Header) (body more : List UInt8) (config : Config) (error : DecodeError),
      (body ++ more).length < capacity 4 → error.isMalformed = true →
      decodeDocument (header.document body) config = .error error →
      decodeDocument (header.document (body ++ more)) config = .error error := by
  constructor
  · intro profile hbuiltin ops bytes config hencode haccepts hroom header body k hk
    constructor
    · rintro j - rfl
      exact decodeDocument_take_boundary hbuiltin hencode haccepts hroom 0 j
    · exact decodeDocument_take_inside hbuiltin hencode haccepts hroom 0 hk
  · intro header body more config error hlt he h
    exact decodeDocument_append_error h he hlt

/-- A text and an integer, cut off in the middle of the one letter of the text and right behind it,
and a width of no known kind that something follows. -/
theorem decodeDocument_cut_or_extended_letter :
    let ops : List Operation := [.value ⟨1⟩ (.text "é"), .value ⟨2⟩ (.int 5)]
    let body : List UInt8 := [3, 0, 0, 0, 1, 0, 0, 0, 2, 195, 169, 1, 0, 0, 0, 2, 0, 0, 0, 5]
    let header : Header := ⟨1, 0, 0⟩
    encodeDocument ops .core1 = .ok (header.document body) ∧
    (∃ offset needed, decodeDocument (header.document (body.take 10)) {} =
        .error (.truncated offset needed) ∧
      offset ≤ Header.size + 10 ∧ 1 ≤ needed ∧ 10 + needed ≤ body.length) ∧
    decodeDocument (header.document (body.take 11)) {} =
      .ok ⟨⟨1, 0, 11⟩, .core1, [.value ⟨1⟩ (.text "é")]⟩ ∧
    decodeDocument (header.document [0x30, 7, 0, 0, 0, 0]) {} =
      .error (.invalidOperand 9 "dimension kind") ∧
    decodeDocument (header.document ([0x30, 7, 0, 0, 0, 0] ++ [0x2F])) {} =
      .error (.invalidOperand 9 "dimension kind") := by
  intro ops body header
  have hencode : encodeDocument ops .core1 = .ok (header.document body) := by decide +kernel
  have hcut := decodeDocument_cut_or_extended.1 .core1 (by decide) ops _ {} hencode
    (by decide +kernel) (by decide)
  have hwidth : decodeDocument (header.document [0x30, 7, 0, 0, 0, 0]) {} =
      .error (.invalidOperand 9 "dimension kind") := by decide +kernel
  exact ⟨hencode, (hcut 10 (by decide)).2 (by decide), (hcut 11 (by decide)).1 1 (by decide) rfl,
    hwidth, decodeDocument_cut_or_extended.2 header _ [0x2F] {} _ (by decide) rfl hwidth⟩

end Wire

end Panel
