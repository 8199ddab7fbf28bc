import Panel.Proofs.Wire.Document

/-!
# What a document may contain

A player that accepts a profile knows every operation of the profile.  So a document that is read
holds nothing that its player cannot do, and stays within what its header declares and what the
player has room for.
-/

namespace Panel

/-- What a document of an accepted profile may contain, the accepting profile has. -/
theorem Profile.allows_of_accepts {runtime document : Profile} {code : UInt8}
    (haccepts : runtime.accepts document = true) (hallows : document.allows code = true) :
    runtime.allows code = true :=
  OpcodeSet.isSuperset_iff.1 haccepts code hallows

namespace Wire

/-- Whatever the bytes, a document that is read holds operations only that its own profile allows
and the player knows, no more of them than the player takes, under a header of a level between that
of the profile and the highest one, which declares the length of the body.  What is read does not
depend on the player. -/
theorem decodeDocument_allowed {bytes : List UInt8} {config : Config} {d : DecodedDocument}
    (h : decodeDocument bytes config = .ok d) :
    (∀ op ∈ d.operations, d.profile.allows op.opcode.code = true ∧
      config.profile.allows op.opcode.code = true) ∧
    d.profile.apiLevel ≤ d.header.apiLevel ∧ d.header.apiLevel ≤ Profile.maxApiLevel ∧
    bytes = d.header.bytes ++ bytes.drop Header.size ∧
    d.header.length.toNat = (bytes.drop Header.size).length ∧
    d.operations.length ≤ config.maxOperations ∧
    ∀ config' d', decodeDocument bytes config' = .ok d' → d' = d := by
  have hunique (config' : Config) (d' : DecodedDocument)
      (h' : decodeDocument bytes config' = .ok d') : d' = d := decodeDocument_unique h h'
  obtain ⟨body, es, rfl, hprofile, hlength, hroom, hallows, -, -⟩ := decodeDocument_eq_ok.1 h
  obtain ⟨hmax, -, -, hlevel, haccepts⟩ := Header.profile_eq_ok.1 hprofile
  have hbody : (d.header.bytes ++ body).drop Header.size = body := by
    rw [← d.header.length_bytes, List.drop_left]
  rw [hbody]
  refine ⟨fun op hop => ?_, hlevel, hmax, rfl, hlength.symm, hroom, hunique⟩
  exact ⟨hallows op hop, Profile.allows_of_accepts haccepts (hallows op hop)⟩

/-- A border of the second level, read by a player of the third with room for one operation. -/
theorem decodeDocument_allowed_border :
    let bytes : List UInt8 := [0, 2, 0, 1, 0, 0, 0, 9, 0x34, 63, 128, 0, 0, 0, 0, 0, 1]
    let config : Config := { maxOperations := 1 }
    let border : Operation := .modifier (.border .one ⟨1⟩)
    let d : DecodedDocument := ⟨⟨2, 1, 9⟩, .core2, [border]⟩
    decodeDocument bytes config = .ok d ∧
      (Profile.core2.allows border.opcode.code = true ∧
        Profile.core3.allows border.opcode.code = true) ∧
      d.profile.apiLevel ≤ d.header.apiLevel ∧ d.header.apiLevel ≤ Profile.maxApiLevel ∧
      d.header.length.toNat = (bytes.drop Header.size).length ∧
      d.operations.length ≤ config.maxOperations ∧
      ∀ config' d', decodeDocument bytes config' = .ok d' → d' = d := by
  intro bytes config border d
  have hdecode : decodeDocument bytes config = .ok d := by decide +kernel
  obtain ⟨hallowed, hlevel, hmax, -, hlength, hroom, hunique⟩ := decodeDocument_allowed hdecode
  exact ⟨hdecode, hallowed border (List.mem_singleton_self _), hlevel, hmax, hlength, hroom,
    hunique⟩

end Wire

end Panel
