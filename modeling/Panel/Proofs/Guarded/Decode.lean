import Panel.Guarded.Decode
import Panel.Proofs.Guarded.Cursor
import Panel.Proofs.Wire.Document

/-!
# Every document is decoded within its bounds

The reader of documents through a cursor has an answer for every buffer, the one that the reader
from the front has.  Each of its parts reads within the bounds of what it is given.
-/

namespace Panel

/-- The bit of a byte is in one of the four words. -/
theorem OpcodeSet.contains?_eq (s : OpcodeSet) (b : UInt8) :
    s.contains? b = some (s.contains b) := by
  have hword : b.toNat / 64 < 4 := Nat.div_lt_of_lt_mul b.toNat_lt
  have hbit : b.toNat % 64 < 64 := Nat.mod_lt _ (by decide)
  have hplace : 64 * (b.toNat / 64) + b.toNat % 64 = b.toNat := Nat.div_add_mod _ _
  rw [contains?, word?, if_pos hword]
  show some (BitVec.getLsbD _ _) = _
  rw [BitVec.getLsbD_extractLsb', hplace, decide_eq_true hbit, Bool.true_and, contains]

theorem OpcodeSet.word_sub_iff (s t : OpcodeSet) (i : Nat) :
    t.bits.extractLsb' (64 * i) 64 &&& ~~~s.bits.extractLsb' (64 * i) 64 = 0 ↔
      ∀ j < 64, t.bits.getLsbD (64 * i + j) = true → s.bits.getLsbD (64 * i + j) = true := by
  rw [BitVec.eq_of_getLsbD_eq_iff]
  refine forall₂_congr fun j hj => ?_
  simp [hj]

theorem OpcodeSet.exists_covers? {s t : OpcodeSet} {words : List Nat} (h : ∀ i ∈ words, i < 4) :
    ∃ covered, s.covers? t words = some covered ∧ (covered = true ↔ ∀ i ∈ words, ∀ j < 64,
      t.bits.getLsbD (64 * i + j) = true → s.bits.getLsbD (64 * i + j) = true) := by
  induction words with
  | nil => exact ⟨true, rfl, by simp⟩
  | cons i words ih =>
      obtain ⟨hi, hwords⟩ := List.forall_mem_cons.1 h
      obtain ⟨covered, hcovered, hiff⟩ := ih hwords
      rw [covers?, word?, word?, if_pos hi, if_pos hi, List.forall_mem_cons, ← word_sub_iff, ← hiff]
      dsimp only [Option.bind_eq_bind, Option.bind_some]
      by_cases hword : t.bits.extractLsb' (64 * i) 64 &&& ~~~s.bits.extractLsb' (64 * i) 64 = 0
      · rw [if_neg (not_not_intro hword)]
        exact ⟨covered, hcovered, (and_iff_right hword).symm⟩
      · rw [if_pos hword]
        exact ⟨false, rfl, iff_of_false Bool.false_ne_true fun h => hword h.1⟩

/-- Every bit of the set is a bit of one of the four words. -/
theorem OpcodeSet.isSuperset?_eq (s t : OpcodeSet) :
    s.isSuperset? t = some (s.isSuperset t) := by
  obtain ⟨covered, hcovered, hiff⟩ :=
    exists_covers? (s := s) (t := t) fun (i : Nat) (hi : i ∈ List.range 4) => List.mem_range.1 hi
  rw [isSuperset?, hcovered]
  congr 1
  rw [Bool.eq_iff_iff, hiff, isSuperset_iff]
  constructor
  · intro h b hb
    have hword : b.toNat / 64 < 4 := Nat.div_lt_of_lt_mul b.toNat_lt
    have hplace : 64 * (b.toNat / 64) + b.toNat % 64 = b.toNat := Nat.div_add_mod _ _
    have hbit := h _ (List.mem_range.2 hword) (b.toNat % 64) (Nat.mod_lt _ (by decide))
    rw [hplace] at hbit
    exact hbit hb
  · intro h i hi j hj hbit
    have hlt : 64 * i + j < 256 := by
      have hword := List.mem_range.1 hi
      omega
    have hmem := h (.ofNat (64 * i + j))
    rw [mem_def, mem_def, contains, contains, UInt8.toNat_ofNat_of_lt' hlt] at hmem
    exact hmem hbit

theorem Profile.allows?_eq (p : Profile) (code : UInt8) : p.allows? code = some (p.allows code) :=
  p.opcodes.contains?_eq code

namespace Wire.Guarded

variable {α β γ : Type} {m? : Guarded α} {m : Read α} {n? : Guarded β} {n : Read β}

/-! ## Expressions -/

theorem follows_token : Follows token Read.token := by
  refine follows_offset.bind fun start => follows_byte.bind fun kind => ?_
  split
  · exact follows_int32.bind fun _ => follows_pure _
  · exact follows_single.bind fun _ => follows_pure _
  · exact follows_variableId.bind fun _ => follows_pure _
  · refine follows_byte.bind fun code => ?_
    cases BinaryOp.ofCode? code with
    | some op => exact follows_pure _
    | none => exact follows_throw _
  · refine follows_byte.bind fun code => ?_
    cases UnaryOp.ofCode? code with
    | some op => exact follows_pure _
    | none => exact follows_throw _
  · simp only [*, follows_throw]

theorem follows_tokens (count : Nat) (stack : List Expression) :
    Follows (tokens count stack) (Read.tokens count stack) := by
  induction count generalizing stack with
  | zero => exact follows_pure _
  | succ count ih =>
      refine follows_offset.bind fun start => follows_token.bind fun t => ?_
      cases t.push? stack with
      | some stack => exact ih stack
      | none => exact follows_throw _

theorem follows_expression : Follows expression Read.expression := by
  refine follows_offset.bind fun start => follows_word16.bind fun count => ?_
  by_cases h : (count = 0 || maxTokens < count.toNat) = true
  · rw [if_pos h, if_pos h]
    exact follows_throw _
  · rw [if_neg h, if_neg h]
    refine (follows_tokens _ _).bind fun stack => ?_
    obtain _ | ⟨e, _ | _⟩ := stack
    · exact follows_throw _
    · exact follows_pure _
    · exact follows_throw _

/-! ## Operands -/

theorem follows_linear : Follows linear Read.linear :=
  (follows_coded _ _).bind fun _ => (follows_coded _ _).bind fun _ =>
    follows_single.bind fun _ => follows_pure _

theorem follows_box : Follows box Read.box :=
  (follows_coded _ _).bind fun _ => (follows_coded _ _).bind fun _ => follows_pure _

theorem follows_textContent : Follows textContent Read.textContent :=
  follows_variableId.bind fun _ => follows_variableId.bind fun _ => follows_single.bind fun _ =>
    follows_word16.bind fun _ => (follows_coded _ _).bind fun _ => follows_pure _

theorem follows_dimension : Follows dimension Read.dimension := by
  refine follows_offset.bind fun start => follows_byte.bind fun code =>
    follows_single.bind fun units => ?_
  cases Dimension.ofCode? code units with
  | some d => exact follows_pure d
  | none => exact follows_throw _

/-- The offset that a byte was read from is not the last one of the buffer. -/
theorem offset_lt_of_byte {c d e : Cursor} {b : UInt8} (hle : c.position ≤ c.buffer.length)
    (hbyte : Read.byte c.reader = .ok b d.reader) (h : c.Reached e) :
    c.reader.offset < e.base.toNat + e.buffer.length := by
  have hlength := congrArg List.length (Read.byte_eq_ok.1 hbyte).rest
  have hone : (Encoding.byte b).bytes.length = 1 := rfl
  rw [length_reader, List.length_append, hone] at hlength
  rw [h.base, h.buffer, Cursor.reader]
  dsimp only
  omega

/-- Behind a byte that has been read there is an offset, although more has been read since. -/
theorem follows_visibility : Follows visibility Read.visibility := by
  intro c hc
  refine (follows_offset c hc).bind fun start c₁ h₁ _ hoffset =>
    (follows_byte c₁ h₁.within).bind fun source d hd _ hbyte =>
    (follows_word32 d hd.within).bind fun word e he _ _ => ?_
  have hlt (hexact : e.Exact) : start + 1 < UInt64.size := by
    have hexact₁ := (hd.trans he).exact_iff.1 hexact
    obtain ⟨hstart, hreader⟩ := Read.offset_eq_ok.1 (hoffset (h₁.exact_iff.1 hexact₁))
    have hbehind := offset_lt_of_byte h₁.within.position (hbyte hexact₁) (hd.trans he)
    rw [← hreader, hstart] at hbehind
    exact Nat.lt_of_le_of_lt hbehind hexact
  have hwithin := he.within
  split
  · obtain ⟨second, hafter, hsecond⟩ :=
      exists_run_sum start 1 fun hstops => hlt (hwithin.exact hstops)
    refine .pass ((run_bind_of_ok run_get).trans hafter) ?_
    cases Read.visibilityOfWord? word with
    | some visibility => exact follows_pure _ e hwithin
    | none =>
        exact ⟨.error (.invalidOperand second "visibility literal"), e, rfl, hwithin.reached,
          fun hexact => hsecond (hlt hexact) ▸ rfl⟩
  · exact follows_pure _ e hwithin
  · simp only [*, follows_throw _ e hwithin]

/-- A read of one field, of which something is made. -/
theorem Follows.one (hm : Follows m? m) (use : α → β) :
    Follows (do return use (← m?)) (do return use (← m)) :=
  hm.bind fun _ => follows_pure _

/-- A read of two fields, of which something is made. -/
theorem Follows.two (hm : Follows m? m) (hn : Follows n? n) (use : α → β → γ) :
    Follows (do return use (← m?) (← n?)) (do return use (← m) (← n)) :=
  hm.bind fun _ => hn.bind fun _ => follows_pure _

theorem follows_operands (op : Opcode) : Follows (operands op) (Read.operands op) := by
  cases op with
  | integerValue => exact follows_variableId.two follows_int32 _
  | floatValue => exact follows_variableId.two follows_single _
  | textData => exact follows_variableId.two follows_text _
  | colorValue => exact follows_variableId.two follows_word32 _
  | listValue => exact follows_variableId.two follows_idList _
  | namedVariable => exact follows_variableId.two follows_text _
  | integerExpression => exact follows_variableId.two follows_expression _
  | floatExpression => exact follows_variableId.two follows_expression _
  | textLookup => exact follows_variableId.bind fun _ => follows_variableId.two follows_variableId _
  | textFromNumber => exact follows_variableId.bind fun _ => follows_variableId.two follows_byte _
  | rowStart => exact follows_componentId.two follows_linear _
  | columnStart => exact follows_componentId.two follows_linear _
  | boxStart => exact follows_componentId.two follows_box _
  | text => exact follows_componentId.two follows_textContent _
  | spacer => exact follows_componentId.one _
  | containerEnd => exact follows_pure _
  | width => exact follows_dimension.one _
  | height => exact follows_dimension.one _
  | padding =>
      exact follows_single.bind fun _ => follows_single.bind fun _ =>
        follows_single.two follows_single _
  | background => exact follows_variableId.one _
  | border => exact follows_single.two follows_variableId _
  | visibility => exact follows_visibility.one _
  | touchAction => exact (follows_coded _ _).two follows_idList _
  | valueIntegerChange => exact follows_actionId.two (follows_variableId.two follows_int32 _) _
  | valueFloatChange => exact follows_actionId.two (follows_variableId.two follows_single _) _
  | valueStringChange =>
      exact follows_actionId.two (follows_variableId.two follows_variableId _) _
  | valueIntegerExpressionChange =>
      exact follows_actionId.two (follows_variableId.two follows_variableId _) _
  | hostAction => exact follows_actionId.two (follows_word32.one _) _

/-! ## Operations -/

/-- The offset is found before the byte is looked at, whether it is reported or not. -/
theorem follows_operandsOf (code : UInt8) : Follows (operandsOf code) (Read.operandsOf code) := by
  intro c hc
  obtain ⟨next, hrun, hnext⟩ := exists_run_offset hc
  refine .pass hrun ?_
  rw [Read.operandsOf]
  cases Opcode.ofCode? code with
  | some op => exact follows_operands op c hc
  | none =>
      exact ⟨.error (.unknownOpcode code (next - 1)), c, rfl, hc.reached,
        fun hexact => hnext hexact ▸ rfl⟩

variable {profile : Profile} {limit fuel steps maximum : Nat} {c d : Cursor} {op : Operation}

/-- What becomes of an operation once its first byte has been read. -/
theorem follows_operation_behind (profile : Profile) (start : Nat) (code : UInt8) :
    Follows
      (match Opcode.ofCode? code with
        | none => throw (.unknownOpcode code start)
        | some _ => do
          if ← profile.allows? code then operandsOf code
          else throw (.unsupportedOperation code start))
      (match Opcode.ofCode? code with
        | none => throw (.unknownOpcode code start)
        | some op =>
          if profile.allows code then Read.operands op
          else throw (.unsupportedOperation code start)) := by
  intro c hc
  cases hop : Opcode.ofCode? code with
  | none => exact follows_throw _ c hc
  | some op =>
      refine .pass (run_lift (profile.allows?_eq code)) ?_
      have hoperands : Read.operandsOf code = Read.operands op := by rw [Read.operandsOf, hop]
      dsimp only
      rw [← hoperands]
      cases profile.allows code with
      | true => exact follows_operandsOf code c hc
      | false => exact follows_throw _ c hc

theorem follows_operation (profile : Profile) :
    Follows (operation profile) (Read.operation profile) :=
  follows_offset.bind fun start => follows_byte.bind fun code =>
    follows_operation_behind profile start code

/-- An operation takes a byte at least. -/
theorem position_lt_of_operation (hc : c.Within) (h : operation profile c = some (.ok op, d)) :
    c.position < d.position := by
  obtain ⟨start, c₁, hstart, hmore⟩ := exists_of_run_bind h
  obtain ⟨code, c₂, hcode, hbehind⟩ := exists_of_run_bind hmore
  have h₁ := follows_offset.reached hc hstart
  have h₂ := follows_byte.reached h₁.within hcode
  have h₃ := (follows_operation_behind profile start code).reached h₂.within hbehind
  exact Nat.lt_of_le_of_lt h₁.le (Nat.lt_of_lt_of_le (position_lt_of_byte h₁.within hcode) h₃.le)

/-! ## Runs of operations -/

theorem operations_reader_at_end (hend : c.reader.isEmpty = true) :
    Read.operations profile limit fuel maximum c.reader = .ok [] c.reader := by
  cases fuel with
  | zero => rfl
  | succ fuel =>
      refine (Result.run_bind_of_ok rfl).trans ?_
      rw [if_pos hend]
      rfl

theorem followsAt_operations_at_end (hc : c.Within) (hend : c.reader.isEmpty = true) :
    FollowsAt c (operations profile limit (steps + 1) maximum)
      (Read.operations profile limit fuel maximum) := by
  refine ⟨.ok [], c, ?_, hc.reached, fun _ => operations_reader_at_end hend⟩
  refine (run_bind_of_ok (run_isEmpty hc.position)).trans ?_
  rw [if_pos hend]
  rfl

theorem operations_reader_before_end (hend : ¬ c.reader.isEmpty = true) :
    Read.operations profile limit (fuel + 1) (maximum + 1) c.reader =
      (Read.operation profile >>= fun op =>
        Read.operations profile limit fuel maximum >>= fun ops => pure (op :: ops)) c.reader := by
  refine (Result.run_bind_of_ok rfl).trans ?_
  rw [if_neg hend]

theorem operations_reader_of_zero (hend : ¬ c.reader.isEmpty = true) :
    Read.operations profile limit (fuel + 1) 0 c.reader =
      .error (.tooManyOperations limit) c.reader := by
  refine (Result.run_bind_of_ok rfl).trans ?_
  rw [if_neg hend]
  rfl

theorem run_operations_before_end (hc : c.Within) (hend : ¬ c.reader.isEmpty = true) :
    operations profile limit (steps + 1) (maximum + 1) c =
      (operation profile >>= fun op => operations profile limit steps maximum >>= fun ops =>
        pure (op :: ops)) c := by
  refine (run_bind_of_ok (run_isEmpty hc.position)).trans ?_
  rw [if_neg hend]

theorem run_operations_of_zero (hc : c.Within) (hend : ¬ c.reader.isEmpty = true) :
    operations profile limit (steps + 1) 0 c = some (.error (.tooManyOperations limit), c) := by
  refine (run_bind_of_ok (run_isEmpty hc.position)).trans ?_
  rw [if_neg hend]
  rfl

/-- As many steps as there are bytes are enough, and one more to see the end of the buffer. -/
theorem followsAt_operations (profile : Profile) (limit maximum : Nat) (hc : c.Within)
    (hfuel : c.buffer.length - c.position ≤ fuel) :
    FollowsAt c (operations profile limit (fuel + 1) maximum)
      (Read.operations profile limit fuel maximum) := by
  induction fuel generalizing c maximum with
  | zero =>
      have hend : c.reader.isEmpty = true := by
        rw [Reader.isEmpty, List.isEmpty_iff_length_eq_zero, length_reader]
        exact Nat.le_zero.1 hfuel
      exact followsAt_operations_at_end hc hend
  | succ fuel ih =>
      by_cases hend : c.reader.isEmpty = true
      · exact followsAt_operations_at_end hc hend
      cases maximum with
      | zero =>
          exact ⟨.error (.tooManyOperations limit), c, run_operations_of_zero hc hend, hc.reached,
            fun _ => operations_reader_of_zero hend⟩
      | succ maximum =>
          rw [FollowsAt, run_operations_before_end hc hend, operations_reader_before_end hend]
          refine (follows_operation profile c hc).bind fun op d hreached hrun _ => ?_
          have hlt := position_lt_of_operation hc hrun
          have hlength := congrArg List.length hreached.buffer
          have hposition := hreached.within.position
          exact (ih maximum hreached.within (by omega)).bind fun ops e hreached' _ _ =>
            follows_pure (op :: ops) e hreached'.within

end Wire.Guarded

namespace Wire

/-- A header is read from its eight places. -/
theorem Header.run_read? (bytes : List UInt8) :
    (Header.read? bytes).run = some (Header.read bytes) := by
  obtain _ | ⟨_, _ | ⟨_, _ | ⟨_, _ | ⟨_, _ | ⟨_, _ | ⟨_, _ | ⟨_, _ | ⟨_, rest⟩⟩⟩⟩⟩⟩⟩⟩ := bytes
  · rfl
  · rfl
  · rfl
  · rfl
  · rfl
  · rfl
  · rfl
  · rfl
  · have hsize : size ≤ rest.length + 8 := Nat.le_add_left _ _
    rw [read?]
    refine (congrArg ExceptT.run (if_neg (Nat.not_lt.2 hsize))).trans ?_
    have hbody : size ≤ rest.length + 8 ∧ rest.length + 8 ≤ rest.length + 8 :=
      ⟨hsize, Nat.le_refl _⟩
    refine (Checked.run_bind_lift (if_pos ⟨Nat.zero_le size, hsize⟩)).trans ?_
    refine (Checked.run_bind_lift rfl).trans ((Checked.run_bind_lift (if_pos hbody)).trans ?_)
    rw [List.take_length]
    rfl

theorem Header.run_profile? (config : Config) (header : Header) :
    (header.profile? config).run = some (header.profile config) := by
  rw [profile?, profile]
  split
  · rfl
  cases Profile.byId? header.profileId with
  | none => rfl
  | some profile =>
      dsimp only
      split
      · rfl
      have haccepts : config.profile.accepts? profile = some (config.profile.accepts profile) :=
        config.profile.opcodes.isSuperset?_eq profile.opcodes
      refine (Checked.run_bind_lift haccepts).trans ?_
      split <;> rfl

theorem exists_run_readOperations? (profile : Profile) (maximum : Nat) {body : List UInt8}
    (h : body.length < capacity 4) :
    ∃ result r, (readOperations? profile maximum body).run = some result ∧
      Read.operations profile maximum body.length maximum ⟨Header.size, body⟩ =
        Guarded.outcome result r := by
  have hexact : (⟨body, 0, .ofNat Header.size, .stops⟩ : Cursor).Exact := by
    have hbase : (UInt64.ofNat Header.size).toNat = 8 := rfl
    have hcapacity : capacity 4 + 8 < UInt64.size := by decide
    rw [Cursor.Exact, hbase]
    dsimp only
    omega
  obtain ⟨result, d, hrun, -, hread⟩ :=
    Guarded.followsAt_operations profile maximum maximum ⟨Nat.zero_le _, fun _ => hexact⟩
      (Nat.le_refl _)
  exact ⟨result, d.reader, Checked.run_bind_lift hrun, hread hexact⟩

/-- Every buffer is decoded without a byte being taken that is not in it. -/
theorem run_decodeDocument? (bytes : List UInt8) (config : Config) :
    (decodeDocument? bytes config).run = some (decodeDocument bytes config) := by
  refine Checked.run_bind (Header.run_read? bytes) fun front hfront => ?_
  obtain ⟨header, body⟩ := front
  refine Checked.run_bind (Header.run_profile? config header) fun profile hprofile => ?_
  by_cases hlength : body.length ≠ header.length.toNat
  · rw [if_pos hlength, if_pos hlength]
    rfl
  · rw [if_neg hlength, if_neg hlength]
    have hsize : body.length < capacity 4 := not_ne_iff.1 hlength ▸ header.length.toNat_lt
    obtain ⟨result, r, hrun, hread⟩ :=
      exists_run_readOperations? profile config.maxOperations hsize
    rw [hread]
    cases result with
    | error error => exact Checked.run_bind (f := fun _ => .error error) hrun nofun
    | ok operations => exact Checked.run_bind hrun fun _ _ => rfl

end Wire

end Panel
