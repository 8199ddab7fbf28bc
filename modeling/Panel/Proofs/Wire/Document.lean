import Panel.Proofs.Result
import Panel.Proofs.Wire.Operation
import Panel.Wire.Document

/-!
# Documents as bytes

What it takes for a buffer to be read and for operations to be written, said once without the
reader and the writer:

* `operations_eq_ok`: a run of operations reads up to the end whatever spells them one by one;
* `encodeDocument_eq_ok` and `decodeDocument_eq_ok`: a document is its header and its body.
-/

namespace Panel.Wire

namespace Encoding

variable {e : Encoding} {es : List Encoding} {bytes : List UInt8}

theorem toExcept_eq_ok : e.toExcept = .ok bytes ↔ e = .ofBytes bytes := by
  rcases e with ⟨front, _ | error⟩ <;> simp [toExcept, ofBytes]

theorem failure_concat : (concat es).failure = none ↔ ∀ e ∈ es, e.failure = none := by
  induction es with
  | nil => exact iff_of_true rfl nofun
  | cons e es ih =>
      rw [concat, failure_append, ih, List.forall_mem_cons]

theorem concat_eq_ofBytes (hes : ∀ e ∈ es, e.failure = none) :
    concat es = .ofBytes (es.flatMap (·.bytes)) := by
  induction es with
  | nil => rfl
  | cons e es ih =>
      obtain ⟨he, hrest⟩ := List.forall_mem_cons.1 hes
      have hfirst : e = .ofBytes e.bytes := by
        rw [← toExcept_eq_ok, toExcept, he]
      rw [concat, ih hrest, hfirst, ofBytes_append, List.flatMap_cons]
      rfl

end Encoding

/-! ## Operations -/

theorem failure_encodingUnder {profile : Profile} {op : Operation} :
    (op.encodingUnder profile).failure = none ↔
      profile.allows op.opcode.code = true ∧ op.encoding.failure = none := by
  unfold Operation.encodingUnder
  by_cases hallows : profile.allows op.opcode.code = true
  · simp [hallows]
  · simp [hallows, Encoding.fail]

/-- Operations are written under a profile as they are written otherwise, if it allows them all. -/
theorem concat_encodingUnder {profile : Profile} {ops : List Operation} {body : List UInt8} :
    Encoding.concat (ops.map (·.encodingUnder profile)) = .ofBytes body ↔
      (∀ op ∈ ops, profile.allows op.opcode.code = true) ∧
        Encoding.concat (ops.map (·.encoding)) = .ofBytes body := by
  have hsame (hallows : ∀ op ∈ ops, profile.allows op.opcode.code = true) :
      ops.map (·.encodingUnder profile) = ops.map (·.encoding) :=
    List.map_congr_left fun op hop => if_pos (hallows op hop)
  constructor
  · intro h
    have hfailure : (Encoding.concat (ops.map (·.encodingUnder profile))).failure = none := by
      rw [h]
      rfl
    have hallows (op : Operation) (hop : op ∈ ops) : profile.allows op.opcode.code = true :=
      (failure_encodingUnder.1
        (Encoding.failure_concat.1 hfailure _ (List.mem_map_of_mem hop))).1
    exact ⟨hallows, hsame hallows ▸ h⟩
  · rintro ⟨hallows, h⟩
    rw [hsame hallows, h]

/-- An encoding that stands up to the end of a buffer is all that is left of it. -/
theorem Reader.holds_to_end {r : Reader} {e : Encoding} :
    (∃ r', r'.rest = [] ∧ r.Holds e r') ↔ e = .ofBytes r.rest := by
  constructor
  · rintro ⟨r', hend, hwritten, hrest, -⟩
    rw [hend, List.append_nil] at hrest
    cases e
    simp_all [Encoding.ofBytes]
  · rintro rfl
    exact ⟨⟨_, []⟩, rfl, rfl, (List.append_nil _).symm, rfl⟩

/-- An operation takes a byte at least. -/
theorem Reader.Holds.length_lt {r r' : Reader} {op : Operation} {e : Encoding}
    (he : op.Spelling e) (h : r.Holds e r') : r'.rest.length < r.rest.length := by
  obtain ⟨operands, -, rfl⟩ := he
  have hrest := congrArg List.length h.rest
  simp only [Encoding.byte, Encoding.ofBytes_append, List.length_append, List.length_cons,
    List.length_nil] at hrest
  omega

namespace Read

variable {r r' : Reader} {profile : Profile} {limit fuel maximum : Nat} {ops : List Operation}

theorem operations_eq_ok_at_end (hend : r.rest = []) :
    operations profile limit fuel maximum r = .ok ops r' ↔
      ops.length ≤ maximum ∧ (∀ op ∈ ops, profile.allows op.opcode.code = true) ∧
        r'.rest = [] ∧ ∃ es, List.Forall₂ Operation.Spelling ops es ∧ r.Holds (.concat es) r' := by
  have hdone : operations profile limit fuel maximum r = .ok [] r := by
    obtain ⟨offset, rest⟩ := r
    obtain rfl : rest = [] := hend
    cases fuel <;> rfl
  rw [hdone]
  constructor
  · rintro ⟨⟩
    exact ⟨Nat.zero_le _, nofun, hend, [], .nil, Reader.holds_empty.2 rfl⟩
  · rintro ⟨-, -, -, es, hes, hconcat⟩
    cases hes with
    | nil => rw [Reader.holds_empty.1 hconcat]
    | cons he hes =>
        obtain ⟨r₁, hholds, -⟩ := Reader.holds_append.1 hconcat
        have hshorter := hholds.length_lt he
        rw [hend] at hshorter
        exact absurd hshorter (Nat.not_lt_zero _)

theorem operations_eq_ok_before_end (hend : r.rest ≠ []) :
    operations profile limit (fuel + 1) maximum r = .ok ops r' ↔
      ∃ op rest r₁, ops = op :: rest ∧ 0 < maximum ∧ operation profile r = .ok op r₁ ∧
        operations profile limit fuel (maximum - 1) r₁ = .ok rest r' := by
  rcases r with ⟨offset, _ | ⟨b, rest⟩⟩
  · exact absurd rfl hend
  cases maximum with
  | zero =>
      refine iff_of_false throw_ne_ok ?_
      rintro ⟨_, _, _, _, hmaximum, _⟩
      exact absurd hmaximum (Nat.lt_irrefl 0)
  | succ maximum =>
      change (operation profile >>= fun op =>
        (operations profile limit fuel maximum >>= fun rest => pure (op :: rest))) _ = _ ↔ _
      simp only [bind_eq_ok, pure_eq_ok]
      constructor
      · rintro ⟨op, r₁, hop, rest, _, hrest, rfl, rfl⟩
        exact ⟨op, rest, r₁, rfl, Nat.succ_pos maximum, hop, hrest⟩
      · rintro ⟨op, rest, r₁, rfl, _, hop, hrest⟩
        exact ⟨op, r₁, hop, rest, r', hrest, rfl, rfl⟩

/-- Operations are read up to the end from exactly the bytes that spell them one by one. -/
theorem operations_eq_ok (hfuel : r.rest.length ≤ fuel) :
    operations profile limit fuel maximum r = .ok ops r' ↔
      ops.length ≤ maximum ∧ (∀ op ∈ ops, profile.allows op.opcode.code = true) ∧
        r'.rest = [] ∧ ∃ es, List.Forall₂ Operation.Spelling ops es ∧ r.Holds (.concat es) r' := by
  induction fuel generalizing r maximum ops with
  | zero =>
      exact operations_eq_ok_at_end (List.eq_nil_of_length_eq_zero (Nat.le_zero.1 hfuel))
  | succ fuel ih =>
      by_cases hend : r.rest = []
      · exact operations_eq_ok_at_end hend
      · rw [operations_eq_ok_before_end hend]
        constructor
        · rintro ⟨op, rest, r₁, rfl, hmaximum, hop, hrest⟩
          obtain ⟨hallows, e, he, hholds⟩ := operation_eq_ok.1 hop
          have hshorter := hholds.length_lt he
          obtain ⟨hlength, hall, hend, es, hes, hconcat⟩ := (ih (by omega)).1 hrest
          refine ⟨?_, List.forall_mem_cons.2 ⟨hallows, hall⟩, hend, e :: es, .cons he hes,
            hholds.append hconcat⟩
          rw [List.length_cons]
          omega
        · rintro ⟨hlength, hall, hend', es, hes, hconcat⟩
          cases hes with
          | nil =>
              obtain rfl := Reader.holds_empty.1 hconcat
              exact absurd hend' hend
          | @cons op e ops es he hes =>
              obtain ⟨hallows, hall⟩ := List.forall_mem_cons.1 hall
              obtain ⟨r₁, hholds, hconcat⟩ := Reader.holds_append.1 hconcat
              have hshorter := hholds.length_lt he
              rw [List.length_cons] at hlength
              refine ⟨op, ops, r₁, rfl, by omega, operation_eq_ok.2 ⟨hallows, e, he, hholds⟩, ?_⟩
              exact (ih (by omega)).2 ⟨by omega, hall, hend', es, hes, hconcat⟩

end Read

/-! ## Headers -/

theorem Header.read_eq_ok {bytes body : List UInt8} {header : Header} :
    read bytes = .ok (header, body) ↔ bytes = header.bytes ++ body := by
  constructor
  · intro h
    unfold read at h
    split at h
    · rename_i a b c d e f g k rest
      cases h
      have hlevel : ofBytes [a, b] < capacity 2 := ofBytes_lt _
      have hprofile : ofBytes [c, d] < capacity 2 := ofBytes_lt _
      have hlength : ofBytes [e, f, g, k] < capacity 4 := ofBytes_lt _
      have h₁ : toBytes 2 (ofBytes [a, b]) = [a, b] := toBytes_ofBytes rfl
      have h₂ : toBytes 2 (ofBytes [c, d]) = [c, d] := toBytes_ofBytes rfl
      have h₃ : toBytes 4 (ofBytes [e, f, g, k]) = [e, f, g, k] := toBytes_ofBytes rfl
      simp only [Header.bytes, UInt16.toNat_ofNat_of_lt' hlevel, UInt16.toNat_ofNat_of_lt' hprofile,
        UInt32.toNat_ofNat_of_lt' hlength, h₁, h₂, h₃, List.cons_append, List.nil_append]
    · cases h
  · rintro rfl
    exact read_bytes header body

theorem Profile.byId?_eq_some_iff {id : UInt16} {profile : Profile} :
    Profile.byId? id = some profile ↔ profile ∈ Profile.builtin ∧ profile.id = id := by
  constructor
  · intro h
    exact ⟨List.mem_of_find?_eq_some h, by simpa using List.find?_some h⟩
  · rintro ⟨hmem, rfl⟩
    simp only [Profile.builtin, List.mem_cons, List.not_mem_nil, or_false] at hmem
    rcases hmem with rfl | rfl | rfl | rfl <;> rfl

/-- The checks on a header, all of which a document passes. -/
theorem Header.profile_eq_ok {header : Header} {config : Config} {profile : Profile} :
    header.profile config = .ok profile ↔
      header.apiLevel ≤ Profile.maxApiLevel ∧ profile ∈ Profile.builtin ∧
        profile.id = header.profileId ∧ profile.apiLevel ≤ header.apiLevel ∧
        config.profile.accepts profile = true := by
  unfold Header.profile
  constructor
  · intro h
    split at h
    · cases h
    · rename_i hmax
      cases hid : Profile.byId? header.profileId with
      | none =>
        rw [hid] at h
        cases h
      | some found =>
        rw [hid] at h
        obtain ⟨hmem, hnumber⟩ := Profile.byId?_eq_some_iff.1 hid
        simp only at h
        split at h
        · cases h
        · rename_i hlevel
          split at h
          · rename_i haccepts
            cases h
            exact ⟨UInt16.not_lt.1 hmax, hmem, hnumber, UInt16.not_lt.1 hlevel, haccepts⟩
          · cases h
  · rintro ⟨hmax, hmem, hnumber, hlevel, haccepts⟩
    rw [if_neg (UInt16.not_lt.2 hmax), Profile.byId?_eq_some_iff.2 ⟨hmem, hnumber⟩]
    simp only [if_neg (UInt16.not_lt.2 hlevel), if_pos haccepts]

/-! ## Documents -/

theorem encodeDocument_eq_ok {ops : List Operation} {profile : Profile} {bytes : List UInt8} :
    encodeDocument ops profile = .ok bytes ↔
      ∃ body, bytes = (Header.mk profile.apiLevel profile.id (.ofNat body.length)).bytes ++ body ∧
        body.length < capacity 4 ∧ (∀ op ∈ ops, profile.allows op.opcode.code = true) ∧
        Encoding.concat (ops.map (·.encoding)) = .ofBytes body := by
  rw [encodeDocument, Result.bind_eq_ok]
  constructor
  · rintro ⟨body, hbody, h⟩
    split at h
    · rename_i hlt
      cases h
      obtain ⟨hallows, hconcat⟩ := concat_encodingUnder.1 (Encoding.toExcept_eq_ok.1 hbody)
      exact ⟨body, rfl, hlt, hallows, hconcat⟩
    · cases h
  · rintro ⟨body, rfl, hlt, hallows, hconcat⟩
    refine ⟨body, Encoding.toExcept_eq_ok.2 (concat_encodingUnder.2 ⟨hallows, hconcat⟩), ?_⟩
    rw [if_pos hlt]
    rfl

/-- The body of a written document is its operations, one behind the other. -/
theorem body_of_encodeDocument {ops : List Operation} {profile : Profile} {bytes : List UInt8}
    (h : encodeDocument ops profile = .ok bytes) :
    bytes.drop Header.size = ops.flatMap (·.encoding.bytes) ∧
      (ops.flatMap (·.encoding.bytes)).length < capacity 4 ∧
      (∀ op ∈ ops, profile.allows op.opcode.code = true) ∧
      ∀ op ∈ ops, op.encoding.failure = none := by
  obtain ⟨body, rfl, hlt, hallows, hconcat⟩ := encodeDocument_eq_ok.1 h
  have hwritten : ∀ e ∈ ops.map (·.encoding), e.failure = none :=
    Encoding.failure_concat.1 (by rw [hconcat]; rfl)
  rw [Encoding.concat_eq_ofBytes hwritten, List.flatMap_map] at hconcat
  obtain rfl : ops.flatMap (·.encoding.bytes) = body := congrArg Encoding.bytes hconcat
  refine ⟨?_, hlt, hallows, List.forall_mem_map.1 hwritten⟩
  rw [← Header.length_bytes ⟨profile.apiLevel, profile.id, .ofNat _⟩, List.drop_left]

/-- A written document has fewer operations than its body may have bytes. -/
theorem length_lt_of_encodeDocument {ops : List Operation} {profile : Profile}
    {bytes : List UInt8} (h : encodeDocument ops profile = .ok bytes) :
    ops.length < capacity 4 := by
  obtain ⟨-, hlt, -, -⟩ := body_of_encodeDocument h
  refine Nat.lt_of_le_of_lt ?_ hlt
  clear h hlt
  induction ops with
  | nil => exact Nat.le_refl 0
  | cons op ops ih =>
      have hop : 0 < op.encoding.bytes.length := Nat.succ_pos _
      rw [List.flatMap_cons, List.length_append, List.length_cons]
      omega

theorem decodeDocument_eq_ok {bytes : List UInt8} {config : Config} {d : DecodedDocument} :
    decodeDocument bytes config = .ok d ↔
      ∃ body es, bytes = d.header.bytes ++ body ∧ d.header.profile config = .ok d.profile ∧
        body.length = d.header.length.toNat ∧ d.operations.length ≤ config.maxOperations ∧
        (∀ op ∈ d.operations, d.profile.allows op.opcode.code = true) ∧
        List.Forall₂ Operation.Spelling d.operations es ∧ Encoding.concat es = .ofBytes body := by
  obtain ⟨header, profile, ops⟩ := d
  simp only [decodeDocument, Result.bind_eq_ok]
  constructor
  · rintro ⟨⟨header', body⟩, hread, profile', hprofile, h⟩
    split at h
    · cases h
    · rename_i hlength
      cases hrun : Read.operations profile' config.maxOperations body.length config.maxOperations
          ⟨Header.size, body⟩ with
      | error error r' =>
        rw [hrun] at h
        cases h
      | ok ops' r' =>
        rw [hrun] at h
        cases h
        obtain ⟨hmaximum, hallows, hend, es, hes, hholds⟩ :=
          (Read.operations_eq_ok (Nat.le_refl body.length)).1 hrun
        exact ⟨body, es, Header.read_eq_ok.1 hread, hprofile, Decidable.not_not.1 hlength,
          hmaximum, hallows, hes, Reader.holds_to_end.1 ⟨r', hend, hholds⟩⟩
  · rintro ⟨body, es, hbytes, hprofile, hlength, hmaximum, hallows, hes, hconcat⟩
    refine ⟨(header, body), Header.read_eq_ok.2 hbytes, profile, hprofile, ?_⟩
    let start : Reader := ⟨Header.size, body⟩
    obtain ⟨r', hend, hholds⟩ := (Reader.holds_to_end (r := start)).2 hconcat
    have hrun : Read.operations profile config.maxOperations body.length config.maxOperations
        start = .ok ops r' :=
      (Read.operations_eq_ok (Nat.le_refl _)).2 ⟨hmaximum, hallows, hend, es, hes, hholds⟩
    rw [if_neg (not_not_intro hlength), hrun]
    rfl

/-- What a player is like decides whether a buffer is read, and not as what. -/
theorem decodeDocument_unique {bytes : List UInt8} {config config' : Config}
    {d d' : DecodedDocument} (h : decodeDocument bytes config = .ok d)
    (h' : decodeDocument bytes config' = .ok d') : d' = d := by
  obtain ⟨body, es, rfl, hprofile, hlength, hroom, hallows, hes, hconcat⟩ :=
    decodeDocument_eq_ok.1 h
  obtain ⟨body', es', hbytes, hprofile', hlength', hroom', hallows', hes', hconcat'⟩ :=
    decodeDocument_eq_ok.1 h'
  obtain ⟨hheader, rfl⟩ : d'.header = d.header ∧ body' = body := by
    have hread := Header.read_eq_ok.2 hbytes
    rw [Header.read_eq_ok.2 rfl] at hread
    obtain ⟨hheader, hbody⟩ := Prod.mk.inj (Except.ok.inj hread)
    exact ⟨hheader.symm, hbody.symm⟩
  have hsame : d'.profile = d.profile := by
    obtain ⟨-, hmem, hid, -⟩ := Header.profile_eq_ok.1 hprofile
    obtain ⟨-, hmem', hid', -⟩ := Header.profile_eq_ok.1 hprofile'
    rw [hheader] at hid'
    have hfound := Profile.byId?_eq_some_iff.2 ⟨hmem, hid⟩
    rw [Profile.byId?_eq_some_iff.2 ⟨hmem', hid'⟩] at hfound
    exact Option.some.inj hfound
  -- a player with the profile of one and room for both reads both
  let roomy : Config :=
    { config with maxOperations := max config.maxOperations config'.maxOperations }
  have hread : decodeDocument (d.header.bytes ++ body') roomy = .ok d :=
    decodeDocument_eq_ok.2 ⟨body', es, rfl, hprofile, hlength,
      Nat.le_trans hroom (Nat.le_max_left _ _), hallows, hes, hconcat⟩
  have hread' : decodeDocument (d.header.bytes ++ body') roomy = .ok d' := by
    refine decodeDocument_eq_ok.2 ⟨body', es', hbytes, ?_, hlength',
      Nat.le_trans hroom' (Nat.le_max_right _ _), hallows', hes', hconcat'⟩
    rw [hheader, hsame]
    exact hprofile
  rw [hread'] at hread
  exact Except.ok.inj hread

end Panel.Wire
