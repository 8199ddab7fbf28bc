import Panel.Proofs.Guarded.Field
import Panel.Proofs.Wire.Cut

/-!
# Where failures point

A failure that reports an offset points to a byte of the operation that it came up in, or to where
the bytes ended.

* `Locates` bounds the offset that a read reports on by where the read began and by where it left
  the reader.  Reads made of such reads are such reads.
* `Read.operations_error` finds the operation that failed, behind others that did not.
-/

namespace Panel

namespace Wire

/-- A reader that has gone on in the same buffer by some bytes at least. -/
structure Reader.Onward (taken : Nat) (r r' : Reader) : Prop where
  offset : r.offset + taken ≤ r'.offset
  stop : r'.offset + r'.rest.length = r.offset + r.rest.length

/-- A failure about operands that points behind a place and into what was read, or up to the end of
the buffer where that is what is wrong. -/
inductive Blame (first : Nat) (r : Reader) : DecodeError → Prop
  | truncated {offset needed : Nat} (h : first ≤ offset) (hstop : offset ≤ r.offset + r.rest.length) :
      Blame first r (.truncated offset needed)
  | invalidOperand {offset : Nat} {reason : String} (h : first ≤ offset) (hlt : offset < r.offset) :
      Blame first r (.invalidOperand offset reason)
  | malformedExpression {offset : Nat} (h : first ≤ offset) (hlt : offset < r.offset) :
      Blame first r (.malformedExpression offset)

/-- Begun at `bound` or behind it, a read that succeeds takes some bytes at least, and one that
fails blames a byte from `first` on. -/
structure Locates {α : Type} (m : Read α) (first bound taken : Nat) : Prop where
  ok : ∀ {r r' : Reader} {a : α}, m r = .ok a r' → r.Onward taken r'
  error : ∀ {r r' : Reader} {e : DecodeError}, bound ≤ r.offset → m r = .error e r' →
    r.Onward 0 r' ∧ Blame first r' e

variable {α β γ : Type} {m : Read α} {f : α → Read β} {n : Read β} {r r₁ r' : Reader}
  {e : DecodeError} {first bound taken more : Nat}

theorem Reader.Onward.trans (h : r.Onward taken r₁) (h' : r₁.Onward more r') :
    r.Onward (taken + more) r' := by
  obtain ⟨hoffset, hstop⟩ := h
  obtain ⟨hoffset', hstop'⟩ := h'
  exact ⟨by omega, by omega⟩

theorem Reader.Onward.mono (h : r.Onward taken r') (hle : more ≤ taken) : r.Onward more r' :=
  ⟨by have := h.offset; omega, h.stop⟩

theorem Blame.mono {first' : Nat} (h : Blame first r e) (hle : first' ≤ first) :
    Blame first' r e := by
  cases h with
  | truncated h hstop => exact .truncated (Nat.le_trans hle h) hstop
  | invalidOperand h hlt => exact .invalidOperand (Nat.le_trans hle h) hlt
  | malformedExpression h hlt => exact .malformedExpression (Nat.le_trans hle h) hlt

namespace Locates

/-- What is read first counts for what the whole takes. -/
theorem bind (hm : Locates m first bound taken) (hf : ∀ a, Locates (f a) first (bound + taken) 0) :
    Locates (m >>= f) first bound taken where
  ok := by
    intro r r' b h
    obtain ⟨a, r₁, ha, hb⟩ := Read.bind_eq_ok.1 h
    exact (hm.ok ha).trans ((hf a).ok hb)
  error := by
    intro r r' e hbound h
    rcases Read.bind_eq_error.1 h with h | ⟨a, r₁, ha, h⟩
    · exact hm.error hbound h
    · have honward := hm.ok ha
      have hlater : bound + taken ≤ r₁.offset := by
        have hoffset := honward.offset
        omega
      obtain ⟨honward', hblame⟩ := (hf a).error hlater h
      exact ⟨(honward.trans honward').mono (Nat.zero_le _), hblame⟩

theorem pure (a : α) : Locates (pure a) first bound 0 where
  ok := by
    intro r r' b h
    obtain ⟨rfl, rfl⟩ := Read.pure_eq_ok.1 h
    exact ⟨Nat.le_refl _, rfl⟩
  error := nofun

theorem invalidOperand {offset : Nat} {reason : String} (h : first ≤ offset)
    (hlt : offset < bound) :
    Locates (throw (.invalidOperand offset reason) : Read α) first bound 0 where
  ok := nofun
  error := by
    rintro r _ _ hbound ⟨⟩
    exact ⟨⟨Nat.le_refl _, rfl⟩, .invalidOperand h (Nat.lt_of_lt_of_le hlt hbound)⟩

theorem malformedExpression {offset : Nat} (h : first ≤ offset) (hlt : offset < bound) :
    Locates (throw (.malformedExpression offset) : Read α) first bound 0 where
  ok := nofun
  error := by
    rintro r _ _ hbound ⟨⟩
    exact ⟨⟨Nat.le_refl _, rfl⟩, .malformedExpression h (Nat.lt_of_lt_of_le hlt hbound)⟩

/-- What the rest of a read blames from the captured offset on, the whole blames from anywhere
before. -/
theorem capture {f : Nat → Read β} (hle : first ≤ bound)
    (hf : ∀ start, Locates (f start) start start taken) :
    Locates (Read.offset >>= f) first bound taken where
  ok := (hf _).ok
  error := by
    intro r r' e hbound h
    obtain ⟨honward, hblame⟩ := (hf r.offset).error (Nat.le_refl _) h
    exact ⟨honward, hblame.mono (Nat.le_trans hle hbound)⟩

theorem weaken (h : Locates m first bound taken) : Locates m first bound 0 :=
  ⟨fun hm => (h.ok hm).mono (Nat.zero_le _), h.error⟩

/-- A field that makes no sense has a byte to blame, and one that is cut off ends with the
buffer. -/
theorem field (field : Field α) (hle : first ≤ bound) :
    Locates field.read first bound field.width where
  ok := by
    intro r r' a h
    obtain ⟨⟨used, failure⟩, hencodes, hwritten, hrest, hoffset⟩ := Field.read_eq_ok.1 h
    obtain rfl : failure = none := hwritten
    have hlength : used.length = field.size a := Field.Spells.length_eq hencodes
    have hsum := congrArg List.length hrest
    simp only [Field.size, List.length_append] at hlength hsum hoffset
    exact ⟨by omega, by omega⟩
  error := by
    intro r r' e hbound h
    have hlead : field.lead r.rest ≤ r.rest.length := by
      unfold Field.lead
      split
      · omega
      · omega
    rcases Field.read_eq_error h with ⟨hlt, rfl, rfl⟩ | ⟨hsize, hlead, ⟨reason, rfl⟩, rfl⟩
    · exact ⟨⟨Nat.le_refl _, rfl⟩, .truncated (by omega) (by omega)⟩
    · refine ⟨⟨Nat.le_add_right _ _, ?_⟩, .invalidOperand (by omega) (by dsimp only; omega)⟩
      rw [List.length_drop]
      dsimp only
      omega

end Locates

/-! ## Reads that blame nothing in front of them -/

/-- A read that blames no byte before the one that it begins with. -/
structure Located (m : Read α) : Prop where
  locates : ∀ {first bound : Nat}, first ≤ bound → Locates m first bound 0

namespace Located

theorem pure (a : α) : Located (pure a) := ⟨fun _ => .pure a⟩

theorem field (field : Field α) : Located field.read := ⟨fun hle => (Locates.field field hle).weaken⟩

theorem coded (ofCode? : UInt8 → Option α) (reason : String) :
    Located (Read.coded ofCode? reason) :=
  field (.coded ofCode? reason)

theorem bind (hm : Located m) (hf : ∀ a, Located (f a)) : Located (m >>= f) :=
  ⟨fun hle => (hm.locates hle).bind fun a => (hf a).locates hle⟩

theorem one (hm : Located m) (use : α → β) : Located (do return use (← m)) :=
  hm.bind fun _ => .pure _

theorem two (hm : Located m) (hn : Located n) (use : α → β → γ) :
    Located (do return use (← m) (← n)) :=
  hm.bind fun _ => hn.bind fun _ => .pure _

/-! ### Expressions -/

theorem token {first bound : Nat} (hle : first ≤ bound) : Locates Read.token first bound 1 := by
  refine .capture hle fun start => ?_
  have hbehind : start < start + 1 := Nat.lt_succ_self start
  have hafter : start ≤ start + 1 := Nat.le_succ start
  refine Locates.bind (.field .byte (Nat.le_refl start)) fun kind => ?_
  split
  · exact ((field .int32).one _).locates hafter
  · exact ((field .single).one _).locates hafter
  · exact ((field .variableId).one _).locates hafter
  · refine Locates.bind ((field .byte).locates hafter) fun code => ?_
    cases BinaryOp.ofCode? code with
    | some op => exact .pure _
    | none => exact .malformedExpression (Nat.le_refl start) hbehind
  · refine Locates.bind ((field .byte).locates hafter) fun code => ?_
    cases UnaryOp.ofCode? code with
    | some op => exact .pure _
    | none => exact .malformedExpression (Nat.le_refl start) hbehind
  · exact .malformedExpression (Nat.le_refl start) hbehind

theorem tokens (count : Nat) (stack : List Expression) : Located (Read.tokens count stack) := by
  induction count generalizing stack with
  | zero => exact .pure _
  | succ count ih =>
      refine ⟨fun hle => .capture hle fun start => ?_⟩
      refine Locates.weaken (.bind (token (Nat.le_refl start)) fun t => ?_)
      cases t.push? stack with
      | some stack => exact (ih stack).locates (Nat.le_succ start)
      | none => exact .malformedExpression (Nat.le_refl start) (Nat.lt_succ_self start)

theorem expression : Located Read.expression := by
  refine ⟨fun hle => .capture hle fun start => ?_⟩
  have hbehind : start < start + 2 := by omega
  refine Locates.weaken (.bind (.field .word16 (Nat.le_refl start)) fun count => ?_)
  dsimp only
  split
  · exact .malformedExpression (Nat.le_refl start) hbehind
  · refine Locates.bind ((tokens count.toNat []).locates (Nat.le_of_lt hbehind)) fun stack => ?_
    split
    · exact .pure _
    · exact .malformedExpression (Nat.le_refl start) hbehind

/-! ### Operands -/

theorem linear : Located Read.linear :=
  (coded _ _).bind fun _ =>
    (coded _ _).two (field .single) _

theorem box : Located Read.box :=
  (coded _ _).two (coded _ _) _

theorem textContent : Located Read.textContent :=
  (field .variableId).bind fun _ => (field .variableId).bind fun _ => (field .single).bind fun _ =>
    (field .word16).two (coded _ _) _

theorem dimension : Located Read.dimension := by
  refine ⟨fun hle => .capture hle fun start => ?_⟩
  refine Locates.weaken (.bind (.field .byte (Nat.le_refl start)) fun code => ?_)
  refine Locates.weaken (.bind (.field .single (Nat.le_succ start)) fun units => ?_)
  cases Dimension.ofCode? code units with
  | some d => exact .pure _
  | none => exact .invalidOperand (Nat.le_refl start) (by simp only [Field.width]; omega)

/-- The word behind the first byte has been read before it is blamed. -/
theorem visibility : Located Read.visibility := by
  refine ⟨fun hle => .capture hle fun start => ?_⟩
  refine Locates.weaken (.bind (.field .byte (Nat.le_refl start)) fun source => ?_)
  refine Locates.weaken (.bind (.field .word32 (Nat.le_succ start)) fun word => ?_)
  have hbehind : start + 1 < start + Field.byte.width + Field.word32.width := by
    simp only [Field.width]
    omega
  split
  · cases Read.visibilityOfWord? word with
    | some visibility => exact .pure _
    | none => exact .invalidOperand (Nat.le_succ start) hbehind
  · exact .pure _
  · exact .invalidOperand (Nat.le_refl start) (Nat.lt_of_succ_lt hbehind)

theorem operands (op : Opcode) : Located (Read.operands op) := by
  cases op with
  | integerValue => exact (field .variableId).two (field .int32) _
  | floatValue => exact (field .variableId).two (field .single) _
  | textData => exact (field .variableId).two (field .text) _
  | colorValue => exact (field .variableId).two (field .word32) _
  | listValue => exact (field .variableId).two (field .idList) _
  | namedVariable => exact (field .variableId).two (field .text) _
  | integerExpression => exact (field .variableId).two expression _
  | floatExpression => exact (field .variableId).two expression _
  | textLookup =>
      exact (field .variableId).bind fun _ => (field .variableId).two (field .variableId) _
  | textFromNumber => exact (field .variableId).bind fun _ => (field .variableId).two (field .byte) _
  | rowStart => exact (field .componentId).two linear _
  | columnStart => exact (field .componentId).two linear _
  | boxStart => exact (field .componentId).two box _
  | text => exact (field .componentId).two textContent _
  | spacer => exact (field .componentId).one _
  | containerEnd => exact .pure _
  | width => exact dimension.one _
  | height => exact dimension.one _
  | padding =>
      exact (field .single).bind fun _ => (field .single).bind fun _ =>
        (field .single).two (field .single) _
  | background => exact (field .variableId).one _
  | border => exact (field .single).two (field .variableId) _
  | visibility => exact visibility.one _
  | touchAction => exact (coded _ _).two (field .idList) _
  | valueIntegerChange => exact (field .actionId).two ((field .variableId).two (field .int32) _) _
  | valueFloatChange => exact (field .actionId).two ((field .variableId).two (field .single) _) _
  | valueStringChange =>
      exact (field .actionId).two ((field .variableId).two (field .variableId) _) _
  | valueIntegerExpressionChange =>
      exact (field .actionId).two ((field .variableId).two (field .variableId) _) _
  | hostAction => exact (field .actionId).two ((field .word32).one _) _

end Located

/-! ## Operations -/

namespace Read

variable {profile : Profile} {limit fuel maximum start : Nat} {bytes : List UInt8}
  {op : Operation} {ops : List Operation}

/-- An operation fails at its first byte, which it repeats, or behind that. -/
theorem operation_eq_error {code : UInt8}
    (h : operation profile ⟨start, code :: bytes⟩ = .error e r') :
    (⟨start, code :: bytes⟩ : Reader).Onward 1 r' ∧
      ((Opcode.ofCode? code = none ∧ e = .unknownOpcode code start) ∨
        ((Opcode.ofCode? code).isSome = true ∧ profile.allows code = false ∧
          e = .unsupportedOperation code start) ∨
        Blame (start + 1) r' e) := by
  have hcode : byte ⟨start, code :: bytes⟩ = .ok code ⟨start + 1, bytes⟩ :=
    byte_eq_ok.2 ⟨rfl, rfl, rfl⟩
  have hfirst : (⟨start, code :: bytes⟩ : Reader).Onward 1 ⟨start + 1, bytes⟩ :=
    ⟨Nat.le_refl _, by simp only [List.length_cons]; omega⟩
  have hrun : operation profile ⟨start, code :: bytes⟩ = _ := Result.run_bind_of_ok rfl
  rw [Result.run_bind_of_ok hcode] at hrun
  rw [hrun] at h
  cases hop : Opcode.ofCode? code with
  | none =>
      rw [hop] at h
      cases h
      exact ⟨hfirst, .inl ⟨rfl, rfl⟩⟩
  | some op =>
      rw [hop] at h
      dsimp only at h
      split at h
      · have hoperands := (Located.operands op).locates (Nat.le_refl (start + 1))
        obtain ⟨honward, hblame⟩ := hoperands.error (Nat.le_refl _) h
        exact ⟨hfirst.trans honward, .inr (.inr hblame)⟩
      · rename_i hallows
        cases h
        exact ⟨hfirst, .inr (.inl ⟨rfl, Bool.eq_false_iff.2 hallows, rfl⟩)⟩

/-- Where a failure may point that came up in the operation with the opcode `code` at `start` and
left the reader `r`, in a buffer that ends at `stop`: an opcode that is refused is the byte at
`start`, operands that are refused are blamed on a byte behind it that the operation has read. -/
structure Points (profile : Profile) (start stop : Nat) (code : UInt8) (r : Reader)
    (e : DecodeError) (offset : Nat) : Prop where
  start_le : start ≤ offset
  le_stop : offset ≤ stop
  unknownOpcode : ∀ opcode, e = .unknownOpcode opcode offset →
    offset = start ∧ opcode = code ∧ Opcode.ofCode? code = none
  unsupportedOperation : ∀ opcode, e = .unsupportedOperation opcode offset →
    offset = start ∧ opcode = code ∧ (Opcode.ofCode? code).isSome = true ∧
      profile.allows code = false
  invalidOperand : ∀ reason, e = .invalidOperand offset reason →
    start < offset ∧ offset < r.offset
  malformedExpression : e = .malformedExpression offset → start < offset ∧ offset < r.offset
  truncated : ∀ needed, e = .truncated offset needed → start < offset

theorem points_of_operation {code : UInt8} {offset : Nat}
    (h : operation profile ⟨start, code :: bytes⟩ = .error e r') (he : e.offset? = some offset) :
    r'.offset ≤ start + (bytes.length + 1) ∧
      Points profile start (start + (bytes.length + 1)) code r' e offset := by
  obtain ⟨⟨-, hstop⟩, hfault⟩ := operation_eq_error h
  dsimp only [List.length_cons] at hstop
  refine ⟨by omega, ?_⟩
  rcases hfault with ⟨hnone, rfl⟩ | ⟨hsome, hallows, rfl⟩ | hblame
  · cases he
    refine ⟨Nat.le_refl _, Nat.le_add_right _ _, ?_, nofun, nofun, nofun, nofun⟩
    rintro _ ⟨⟩
    exact ⟨rfl, rfl, hnone⟩
  · cases he
    refine ⟨Nat.le_refl _, Nat.le_add_right _ _, nofun, ?_, nofun, nofun, nofun⟩
    rintro _ ⟨⟩
    exact ⟨rfl, rfl, hsome, hallows⟩
  · cases hblame with
    | truncated hfirst hle =>
        cases he
        exact ⟨by omega, by omega, nofun, nofun, nofun, nofun, fun _ _ => hfirst⟩
    | invalidOperand hfirst hlt =>
        cases he
        exact ⟨by omega, by omega, nofun, nofun, fun _ _ => ⟨hfirst, hlt⟩, nofun, nofun⟩
    | malformedExpression hfirst hlt =>
        cases he
        exact ⟨by omega, by omega, nofun, nofun, nofun, fun _ => ⟨hfirst, hlt⟩, nofun⟩

theorem operations_at_end (fuel maximum : Nat) :
    operations profile limit fuel maximum ⟨start, []⟩ = .ok [] ⟨start, []⟩ := by
  cases fuel <;> rfl

/-- A run that fails, but not for the number of operations, fails at one of them, and has read
whatever stands in front of it. -/
theorem operations_eq_error (h : operations profile limit fuel maximum ⟨start, bytes⟩ = .error e r')
    (he : e ≠ .tooManyOperations limit) : ∃ earlier used b rest, bytes = used ++ b :: rest ∧
      operation profile ⟨start + used.length, b :: rest⟩ = .error e r' ∧
      ∀ fuel', used.length ≤ fuel' →
        operations profile limit fuel' maximum ⟨start, used⟩ =
          .ok earlier ⟨start + used.length, []⟩ := by
  induction fuel generalizing start bytes maximum with
  | zero => contradiction
  | succ fuel ih =>
      cases bytes with
      | nil => contradiction
      | cons b bytes =>
          cases maximum with
          | zero =>
              cases h
              contradiction
          | succ maximum =>
              rw [operations_cons] at h
              rcases bind_eq_error.1 h with h | ⟨op, r₁, hop, h⟩
              · exact ⟨[], [], b, bytes, rfl, h, fun fuel' _ => operations_at_end fuel' _⟩
              · have h : operations profile limit fuel maximum r₁ = .error e r' := map_eq_error.1 h
                obtain ⟨used, hused, htakes⟩ := (forward_operation profile).takes hop
                have hreader := htakes.reader_eq hused hop
                dsimp only at hused htakes hreader
                have hpos : 0 < used.length := by
                  obtain ⟨-, e, he, hholds⟩ := operation_eq_ok.1 hop
                  have hshorter := hholds.length_lt he
                  rw [hused, List.length_append] at hshorter
                  omega
                rw [hreader] at h
                obtain ⟨earlier, more, b', rest, hmore, hfail, hearlier⟩ := ih h
                refine ⟨op :: earlier, used ++ more, b', rest, ?_, ?_, ?_⟩
                · rw [hused, hmore, List.append_assoc]
                · rw [List.length_append, ← Nat.add_assoc]
                  exact hfail
                · intro fuel' hfuel
                  rw [List.length_append] at hfuel
                  obtain ⟨n, rfl⟩ : ∃ n, fuel' = n + 1 := ⟨fuel' - 1, by omega⟩
                  obtain ⟨c, tail, rfl⟩ : ∃ c tail, used = c :: tail :=
                    List.exists_cons_of_length_pos hpos
                  rw [List.cons_append, operations_cons, ← List.cons_append]
                  rw [Result.run_bind_of_ok (htakes.whole more)]
                  rw [Result.run_bind_of_ok (hearlier n (by omega)), List.length_append,
                    Nat.add_assoc]
                  rfl

end Read

/-! ## Documents -/

variable {bytes : List UInt8} {config : Config}

/-- A place is reported only under a header that passes and has counted the bytes right. -/
theorem exists_header_of_offset? (h : decodeDocument bytes config = .error e)
    (he : e.offset? ≠ none) : ∃ header body profile r',
      bytes = header.document body ∧ Header.read bytes = .ok (header, body) ∧
        body.length < capacity 4 ∧ header.profile config = .ok profile ∧
        Read.operations profile config.maxOperations body.length config.maxOperations
          ⟨Header.size, body⟩ = .error e r' := by
  rcases Result.bind_eq_error.1 h with hread | ⟨⟨header, body⟩, hread, hrest⟩
  · unfold Header.read at hread
    split at hread
    · contradiction
    · cases hread
      contradiction
  · have hbytes := Header.read_eq_ok.1 hread
    by_cases hlength : body.length = header.length.toNat
    · have hdocument : bytes = header.document body := by
        rw [hbytes, Header.document, hlength, UInt32.ofNat_toNat]
      rw [hdocument] at h
      obtain ⟨profile, r', hprofile, hrun⟩ := operations_of_decodeDocument_error h he
      exact ⟨header, body, profile, r', hdocument, hread, hlength ▸ header.length.toNat_lt,
        hprofile, hrun⟩
    · rcases Result.bind_eq_error.1 hrest with hprofile | ⟨profile, -, hrest⟩
      · exact absurd (Header.offset?_of_profile hprofile) he
      · rw [if_pos hlength] at hrest
        cases hrest
        contradiction

/-- A failure that reports an offset points behind the header and not beyond the buffer.  The
operation that it came up in begins at `start`, and cut off there the document is read. -/
theorem decodeDocument_error_offset {offset : Nat} (h : decodeDocument bytes config = .error e)
    (hoffset : e.offset? = some offset) :
    Header.size ≤ offset ∧ offset ≤ bytes.length ∧
    ∃ header profile earlier start code r',
      Header.read bytes = .ok (header, bytes.drop Header.size) ∧
      header.profile config = .ok profile ∧
      Header.size ≤ start ∧ bytes[start]? = some code ∧
      decodeDocument (header.document ((bytes.take start).drop Header.size)) config =
        .ok ⟨{ header with length := .ofNat (start - Header.size) }, profile, earlier⟩ ∧
      Read.operation profile ⟨start, bytes.drop start⟩ = .error e r' ∧
      r'.offset ≤ bytes.length ∧ Read.Points profile start bytes.length code r' e offset := by
  have he : e.offset? ≠ none := by
    rw [hoffset]
    nofun
  obtain ⟨header, body, profile, r', rfl, hread, hlt, hprofile, hrun⟩ :=
    exists_header_of_offset? h he
  have hknown : e ≠ .tooManyOperations config.maxOperations := by
    rintro rfl
    contradiction
  obtain ⟨earlier, used, code, rest, rfl, hfail, hearlier⟩ := Read.operations_eq_error hrun hknown
  let front := { header with length := .ofNat (used ++ code :: rest).length }.bytes ++ used
  let start := Header.size + used.length
  have hfront : front.length = start := by
    rw [List.length_append, Header.length_bytes]
  have hsplit : header.document (used ++ code :: rest) = front ++ code :: rest :=
    (List.append_assoc _ _ _).symm
  have hbody : (front ++ code :: rest).drop Header.size = used ++ code :: rest := by
    rw [← hsplit]
    exact List.drop_left' (Header.length_bytes _)
  have hused : front.drop Header.size = used := List.drop_left' (Header.length_bytes _)
  have hstop : (front ++ code :: rest).length = start + (rest.length + 1) := by
    rw [List.length_append, hfront, List.length_cons]
  have hcode : (front ++ code :: rest)[start]? = some code := by
    rw [← hfront, List.getElem?_append_right (Nat.le_refl _), Nat.sub_self]
    rfl
  have hcut : decodeDocument (header.document used) config =
      .ok ⟨{ header with length := .ofNat used.length }, profile, earlier⟩ := by
    have hshort : used.length < capacity 4 := by
      rw [List.length_append] at hlt
      omega
    rw [decodeDocument_document, hprofile]
    show (if _ then _ else _) = _
    rw [if_pos hshort, hearlier _ (Nat.le_refl _)]
  have hsub : start - Header.size = used.length := Nat.add_sub_cancel_left _ _
  rw [hsplit] at hread ⊢
  rw [hstop]
  obtain ⟨hread', hpoints⟩ := Read.points_of_operation hfail hoffset
  refine ⟨Nat.le_trans (Nat.le_add_right _ _) hpoints.start_le, hpoints.le_stop, header, profile,
    earlier, start, code, r', ?_, hprofile, Nat.le_add_right _ _, hcode, ?_, ?_, hread', hpoints⟩
  · rw [hbody]
    exact hread
  · rw [List.take_left' hfront, hused, hsub]
    exact hcut
  · rw [List.drop_left' hfront]
    exact hfail

/-- An integer, and a visibility that no component has, in the word behind the first byte. -/
theorem decodeDocument_error_offset_visibility :
    let bytes := Header.document ⟨2, 1, 0⟩ [1, 0, 0, 0, 2, 0, 0, 0, 5, 0x35, 0, 0, 0, 0, 9]
    decodeDocument bytes {} = .error (.invalidOperand 19 "visibility literal") ∧
      Header.size ≤ 19 ∧ 19 ≤ bytes.length ∧ ∃ start r', start < 19 ∧ 19 < r'.offset ∧
        Read.operation .core2 ⟨start, bytes.drop start⟩ =
          .error (.invalidOperand 19 "visibility literal") r' := by
  intro bytes
  have hrun : decodeDocument bytes {} = .error (.invalidOperand 19 "visibility literal") := by
    decide +kernel
  obtain ⟨hsize, hlength, header, profile, _, start, _, r', hread, hprofile, -, -, -, hfail, -,
    hpoints⟩ := decodeDocument_error_offset hrun rfl
  have hheader : Header.read bytes = .ok (⟨2, 1, 15⟩, bytes.drop Header.size) := by decide +kernel
  obtain ⟨rfl, -⟩ := Prod.mk.inj (Except.ok.inj (hread.symm.trans hheader))
  have hcore : Header.profile {} ⟨2, 1, 15⟩ = .ok .core2 := by decide +kernel
  obtain rfl := Except.ok.inj (hprofile.symm.trans hcore)
  obtain ⟨hstart, hlt⟩ := hpoints.invalidOperand _ rfl
  exact ⟨hrun, hsize, hlength, start, r', hstart, hlt, hfail⟩

end Wire

end Panel
