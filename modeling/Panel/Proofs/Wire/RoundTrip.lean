import Mathlib.Data.List.Forall2
import Panel.Proofs.Wire.Document

/-!
# Reading and writing documents

* Whatever is written for a profile is read back by every player that accepts the profile and has
  room for the operations.
* Whatever is read can be written again.  The new bytes are the old ones, save for the level in the
  header and the units of sizes that are not fixed, and they are read as the same operations.
-/

namespace Panel.Wire

/-! ## Reading what was written -/

theorem Profile.apiLevel_le_max {profile : Profile} (h : profile ∈ Profile.builtin) :
    profile.apiLevel ≤ Profile.maxApiLevel := by
  simp only [Profile.builtin, List.mem_cons, List.not_mem_nil, or_false] at h
  rcases h with rfl | rfl | rfl | rfl <;> decide

/-- A body that operations spell is read back under a header of the level of its profile. -/
theorem decodeDocument_header_append {profile : Profile} {ops : List Operation}
    {body : List UInt8} {config : Config} (hbuiltin : profile ∈ Profile.builtin)
    (hlt : body.length < capacity 4) (hallows : ∀ op ∈ ops, profile.allows op.opcode.code = true)
    (hconcat : Encoding.concat (ops.map (·.encoding)) = .ofBytes body)
    (haccepts : config.profile.accepts profile = true)
    (hroom : ops.length ≤ config.maxOperations) :
    let header : Header := ⟨profile.apiLevel, profile.id, .ofNat body.length⟩
    decodeDocument (header.bytes ++ body) config = .ok ⟨header, profile, ops⟩ := by
  have hlength : body.length = (UInt32.ofNat body.length).toNat :=
    (UInt32.toNat_ofNat_of_lt' hlt).symm
  refine decodeDocument_eq_ok.2 ⟨body, ops.map (·.encoding), rfl, ?_, hlength, hroom, hallows, ?_,
    hconcat⟩
  · exact Header.profile_eq_ok.2 ⟨Profile.apiLevel_le_max hbuiltin, hbuiltin, rfl,
      UInt16.le_refl _, haccepts⟩
  · rw [List.forall₂_map_right_iff]
    exact List.forall₂_same.2 fun op _ => op.spelling_encoding

/-- Whatever is written for a profile is read back, bit for bit, by every player that accepts the
profile and has room for the operations. -/
theorem decodeDocument_encodeDocument {profile : Profile} {ops : List Operation}
    {bytes : List UInt8} {config : Config} (hbuiltin : profile ∈ Profile.builtin)
    (hencode : encodeDocument ops profile = .ok bytes)
    (haccepts : config.profile.accepts profile = true)
    (hroom : ops.length ≤ config.maxOperations) :
    ∃ header : Header, decodeDocument bytes config = .ok ⟨header, profile, ops⟩ ∧
      header.apiLevel = profile.apiLevel ∧ header.profileId = profile.id ∧
      header.length.toNat + Header.size = bytes.length := by
  obtain ⟨body, rfl, hlt, hallows, hconcat⟩ := encodeDocument_eq_ok.1 hencode
  refine ⟨_, decodeDocument_header_append hbuiltin hlt hallows hconcat haccepts hroom, rfl, rfl, ?_⟩
  rw [UInt32.toNat_ofNat_of_lt' hlt, List.length_append, Header.length_bytes, Nat.add_comm]

/-- A not-a-number with a payload, a text beyond ASCII and a negative zero inside an expression. -/
theorem decodeDocument_encodeDocument_core2 :
    let ops : List Operation :=
      [.value ⟨1⟩ (.float ⟨0x7FC00001⟩), .value ⟨9⟩ (.text "é"),
        .derived ⟨⟨2⟩, .integer
          (.binary .sub (.reference ⟨1⟩) (.constant (.float ⟨0x80000000⟩)))⟩]
    let bytes : List UInt8 :=
      [0, 2, 0, 1, 0, 0, 0, 39, 2, 0, 0, 0, 1, 127, 192, 0, 1, 3, 0, 0, 0, 9, 0, 0, 0, 2, 195, 169,
        16, 0, 0, 0, 2, 0, 3, 2, 0, 0, 0, 1, 1, 128, 0, 0, 0, 3, 1]
    encodeDocument ops .core2 = .ok bytes ∧
      ∃ header : Header, decodeDocument bytes {} = .ok ⟨header, .core2, ops⟩ ∧
        header.apiLevel = 2 ∧ header.profileId = 1 ∧
        header.length.toNat + Header.size = bytes.length := by
  refine ⟨by decide +kernel, ?_⟩
  exact decodeDocument_encodeDocument (by decide) (by decide +kernel) (by decide +kernel)
    (by decide)

theorem Profile.core3_allows (op : Opcode) : Profile.core3.allows op.code = true := by
  cases op <;> decide +kernel

/-- Bytes spell one list of operations at most. -/
theorem spellings_unique {ops ops' : List Operation} {es es' : List Encoding}
    {body : List UInt8} (hes : List.Forall₂ Operation.Spelling ops es)
    (hes' : List.Forall₂ Operation.Spelling ops' es') (hconcat : Encoding.concat es = .ofBytes body)
    (hconcat' : Encoding.concat es' = .ofBytes body) : ops' = ops := by
  -- A reader of the profile that has everything reads both.
  let start : Reader := ⟨Header.size, body⟩
  let maximum := max ops.length ops'.length
  have hread {ops : List Operation} {es : List Encoding} (hlength : ops.length ≤ maximum)
      (hes : List.Forall₂ Operation.Spelling ops es)
      (hconcat : Encoding.concat es = .ofBytes body) :
      ∃ r, Read.operations .core3 maximum body.length maximum start = .ok ops r := by
    obtain ⟨r, hend, hholds⟩ := (Reader.holds_to_end (r := start)).2 hconcat
    exact ⟨r, (Read.operations_eq_ok (Nat.le_refl _)).2 ⟨hlength,
      fun op _ => Profile.core3_allows op.opcode, hend, es, hes, hholds⟩⟩
  obtain ⟨r, hfirst⟩ := hread (Nat.le_max_left _ _) hes hconcat
  obtain ⟨r', hsecond⟩ := hread (Nat.le_max_right _ _) hes' hconcat'
  rw [hfirst] at hsecond
  cases hsecond
  rfl

/-- Whoever reads what was written reads the operations that were written, whatever the profile. -/
theorem operations_of_decodeDocument {profile : Profile} {ops : List Operation}
    {bytes : List UInt8} {config : Config} {d : DecodedDocument}
    (hencode : encodeDocument ops profile = .ok bytes)
    (hdecode : decodeDocument bytes config = .ok d) : d.operations = ops := by
  obtain ⟨body, rfl, -, -, hconcat⟩ := encodeDocument_eq_ok.1 hencode
  obtain ⟨body', es, hbytes, -, -, -, -, hes, hconcat'⟩ := decodeDocument_eq_ok.1 hdecode
  have hheader := Header.read_eq_ok.2 hbytes
  rw [Header.read_eq_ok.2 rfl] at hheader
  obtain ⟨-, rfl⟩ := Prod.mk.inj (Except.ok.inj hheader)
  have hspellings : List.Forall₂ Operation.Spelling ops (ops.map (·.encoding)) := by
    rw [List.forall₂_map_right_iff]
    exact List.forall₂_same.2 fun op _ => op.spelling_encoding
  exact spellings_unique hspellings hes hconcat hconcat'

/-! ## Writing what was read -/

end Wire

open Wire

/-- Bytes that an operation was read from, and those that are written for it.  They differ in the
four bytes of the units of a width or height that wraps or fills, which are written as zero. -/
inductive Operation.Respelled (op : Operation) : List UInt8 → List UInt8 → Prop
  | same : Respelled op op.encoding.bytes op.encoding.bytes
  | idleUnits {d : Dimension} {units : List UInt8}
      (hsize : op = .modifier (.width d) ∨ op = .modifier (.height d))
      (hidle : d.code = 0 ∨ d.code = 2) (hunits : units.length = 4) :
      Respelled op (op.opcode.code :: d.code :: units) (op.opcode.code :: d.code :: [0, 0, 0, 0])

/-- Bytes that a document was read from, and those that are written for it: the level in the header
becomes that of the profile, the rest of the header stays, and each operation is respelled. -/
def Wire.DecodedDocument.Respelled (d : DecodedDocument) (read written : List UInt8) : Prop :=
  ∃ (level header : List UInt8) (spans : List (List UInt8 × List UInt8)),
    level.length = 2 ∧ header.length = 6 ∧
    List.Forall₂ (fun op span => op.Respelled span.1 span.2) d.operations spans ∧
    read = level ++ header ++ spans.flatMap (·.1) ∧
    written = toBytes 2 d.profile.apiLevel.toNat ++ header ++ spans.flatMap (·.2)

namespace Operation

variable {op : Operation} {e : Encoding} {ops : List Operation} {es : List Encoding}

theorem Respelled.length_eq {read written : List UInt8} (h : op.Respelled read written) :
    read.length = written.length := by
  cases h with
  | same => rfl
  | idleUnits hsize hidle hunits => simp [hunits]

/-- A size is respelled: a fixed one as it was, another one with zero for its units. -/
theorem respelled_of_size {d : Dimension} (he : d.Spelling e)
    (hsize : op = .modifier (.width d) ∨ op = .modifier (.height d)) :
    op.encoding.failure = none ∧
      op.Respelled (Encoding.byte op.opcode.code ++ e).bytes op.encoding.bytes := by
  obtain ⟨units, hunits, rfl⟩ := he
  have hencoding : op.encoding = .byte op.opcode.code ++ (.byte d.code ++ .single d.units) := by
    rcases hsize with rfl | rfl <;> rfl
  rw [hencoding]
  refine ⟨rfl, ?_⟩
  cases d with
  | fixed units =>
      rw [hunits rfl, ← hencoding]
      exact .same
  | wrap => exact .idleUnits hsize (.inl rfl) (length_toBytes 4 units.bits.toNat)
  | fill => exact .idleUnits hsize (.inr rfl) (length_toBytes 4 units.bits.toNat)

theorem respelled_of_spelling (he : op.Spelling e) (hfailure : e.failure = none) :
    op.encoding.failure = none ∧ op.Respelled e.bytes op.encoding.bytes := by
  obtain ⟨operands, hoperands, rfl⟩ := he
  unfold OperandsSpelling at hoperands
  split at hoperands
  · exact respelled_of_size hoperands (.inl rfl)
  · exact respelled_of_size hoperands (.inr rfl)
  · subst hoperands
    exact ⟨hfailure, .same⟩

/-- Operations that were read one by one can be written one by one. -/
theorem respelled_of_spellings (hes : List.Forall₂ Spelling ops es)
    (hfailure : ∀ e ∈ es, e.failure = none) :
    ∃ spans : List (List UInt8 × List UInt8),
      List.Forall₂ (fun op span => op.Respelled span.1 span.2) ops spans ∧
      (∀ op ∈ ops, op.encoding.failure = none) ∧
      es.flatMap (·.bytes) = spans.flatMap (·.1) ∧
      ops.flatMap (·.encoding.bytes) = spans.flatMap (·.2) := by
  induction hes with
  | nil => exact ⟨[], .nil, nofun, rfl, rfl⟩
  | @cons op e ops es he hes ih =>
      obtain ⟨hfirst, hfailure⟩ := List.forall_mem_cons.1 hfailure
      obtain ⟨spans, hspans, hops, hread, hwritten⟩ := ih hfailure
      obtain ⟨hop, hrespelled⟩ := respelled_of_spelling he hfirst
      refine ⟨(e.bytes, op.encoding.bytes) :: spans, .cons hrespelled hspans,
        List.forall_mem_cons.2 ⟨hop, hops⟩, ?_, ?_⟩
      · rw [List.flatMap_cons, List.flatMap_cons, hread]
      · rw [List.flatMap_cons, List.flatMap_cons, hwritten]

theorem length_spans {spans : List (List UInt8 × List UInt8)}
    (h : List.Forall₂ (fun op span => op.Respelled span.1 span.2) ops spans) :
    (spans.flatMap (·.1)).length = (spans.flatMap (·.2)).length := by
  induction h with
  | nil => rfl
  | cons hspan hspans ih =>
      rw [List.flatMap_cons, List.flatMap_cons, List.length_append, List.length_append,
        hspan.length_eq, ih]

end Operation

namespace Wire

/-- Every document that is read can be written again, and is then read as the same operations. -/
theorem encodeDocument_decodeDocument {bytes : List UInt8} {config : Config}
    {d : DecodedDocument} (hdecode : decodeDocument bytes config = .ok d) :
    ∃ written, encodeDocument d.operations d.profile = .ok written ∧
      written.length = bytes.length ∧ d.Respelled bytes written ∧
      ∃ again, decodeDocument written config = .ok again ∧ again.operations = d.operations ∧
        again.profile = d.profile ∧
        encodeDocument again.operations again.profile = .ok written := by
  obtain ⟨body, es, rfl, hprofile, hlength, hroom, hallows, hes, hconcat⟩ :=
    decodeDocument_eq_ok.1 hdecode
  obtain ⟨-, hbuiltin, hid, -, haccepts⟩ := Header.profile_eq_ok.1 hprofile
  have hfailure : ∀ e ∈ es, e.failure = none :=
    Encoding.failure_concat.1 (by rw [hconcat]; rfl)
  obtain ⟨spans, hspans, hops, hread, hwritten⟩ := Operation.respelled_of_spellings hes hfailure
  obtain rfl : es.flatMap (·.bytes) = body := by
    rw [Encoding.concat_eq_ofBytes hfailure] at hconcat
    exact congrArg Encoding.bytes hconcat
  have hencoded : Encoding.concat (d.operations.map (·.encoding)) =
      .ofBytes (spans.flatMap (·.2)) := by
    rw [← hwritten, Encoding.concat_eq_ofBytes (List.forall_mem_map.2 hops), List.flatMap_map]
  have hsame : (spans.flatMap (·.2)).length = d.header.length.toNat := by
    rw [← Operation.length_spans hspans, ← hread, hlength]
  have hlt : (spans.flatMap (·.2)).length < capacity 4 := hsame ▸ d.header.length.toNat_lt
  have hencode := encodeDocument_eq_ok.2 ⟨_, rfl, hlt, hallows, hencoded⟩
  refine ⟨_, hencode, ?_, ?_, ?_⟩
  · rw [List.length_append, List.length_append, Header.length_bytes, Header.length_bytes, hsame,
      hlength]
  · refine ⟨toBytes 2 d.header.apiLevel.toNat,
      toBytes 2 d.header.profileId.toNat ++ toBytes 4 d.header.length.toNat, spans,
      length_toBytes 2 _, ?_, hspans, ?_, ?_⟩
    · rw [List.length_append, length_toBytes, length_toBytes]
    · rw [hread, Header.bytes, List.append_assoc (toBytes 2 d.header.apiLevel.toNat)]
    · rw [← hid, hsame, UInt32.ofNat_toNat, Header.bytes,
        List.append_assoc (toBytes 2 d.profile.apiLevel.toNat)]
  · exact ⟨_, decodeDocument_header_append hbuiltin hlt hallows hencoded haccepts hroom, rfl, rfl,
      hencode⟩

/-- A width that wraps but carries units, under a header of a higher level than its profile. -/
theorem encodeDocument_decodeDocument_idle_units :
    let bytes : List UInt8 := [0, 3, 0, 0, 0, 0, 0, 6, 0x30, 0, 1, 2, 3, 4]
    let d : DecodedDocument := ⟨⟨3, 0, 6⟩, .core1, [.modifier (.width .wrap)]⟩
    decodeDocument bytes {} = .ok d ∧
      ∃ written, encodeDocument d.operations d.profile = .ok written ∧
        written.length = bytes.length ∧ d.Respelled bytes written ∧
        ∃ again, decodeDocument written {} = .ok again ∧ again.operations = d.operations ∧
          again.profile = d.profile ∧
          encodeDocument again.operations again.profile = .ok written := by
  refine ⟨by decide +kernel, ?_⟩
  exact encodeDocument_decodeDocument (by decide +kernel)

end Wire

end Panel
