import Panel.Component.Basic
import Panel.Expression.Basic
import Panel.Opcode
import Panel.Proofs.Wire.Span
import Panel.Wire.Operation

/-!
# Fields of an operation

The laws of single operands, one for each way of reading: names and numbers, texts and lists behind
their length, and bytes that stand for something.
-/

namespace Panel.Wire

namespace Read

variable {α : Type} {r r' : Reader}

/-! ## Names and signed numbers -/

/-- A field that is a word under another type. -/
theorem wrapped_eq_ok {ofWord : UInt32 → α} {toWord : α → UInt32} {a : α}
    (hofWord : ∀ a, ofWord (toWord a) = a) (htoWord : ∀ n, toWord (ofWord n) = n) :
    (do return ofWord (← word32) : Read α) r = .ok a r' ↔ r.Holds (.word32 (toWord a)) r' := by
  simp only [bind_eq_ok, word32_eq_ok, pure_eq_ok]
  constructor
  · rintro ⟨n, _, hholds, rfl, rfl⟩
    rwa [htoWord]
  · intro hholds
    exact ⟨_, _, hholds, hofWord a, rfl⟩

@[simp] theorem int32_eq_ok {i : Int32} : int32 r = .ok i r' ↔ r.Holds (.int32 i) r' :=
  wrapped_eq_ok Int32.toInt32_toUInt32 UInt32.toUInt32_toInt32

@[simp] theorem single_eq_ok {x : Single} : single r = .ok x r' ↔ r.Holds (.single x) r' :=
  wrapped_eq_ok (fun _ => rfl) fun _ => rfl

@[simp] theorem variableId_eq_ok {id : VariableId} :
    variableId r = .ok id r' ↔ r.Holds (.variableId id) r' :=
  wrapped_eq_ok (fun _ => rfl) fun _ => rfl

@[simp] theorem componentId_eq_ok {id : ComponentId} :
    componentId r = .ok id r' ↔ r.Holds (.componentId id) r' :=
  wrapped_eq_ok (fun _ => rfl) fun _ => rfl

@[simp] theorem actionId_eq_ok {id : ActionId} :
    actionId r = .ok id r' ↔ r.Holds (.actionId id) r' :=
  wrapped_eq_ok (fun _ => rfl) fun _ => rfl

/-! ## Fields with a length -/

/-- Going back after a failure does not touch a success. -/
@[simp] theorem resuming_eq_ok {m : Read α} {a : α} :
    resuming m r = .ok a r' ↔ m r = .ok a r' := by
  unfold resuming
  split
  · rename_i hm
    simp [hm]
  · rfl

theorem fromUTF8?_eq_some_iff {front : List UInt8} {s : String} :
    String.fromUTF8? ⟨front.toArray⟩ = some s ↔ s.toUTF8.data.toList = front := by
  unfold String.fromUTF8?
  constructor
  · intro h
    split at h
    · cases h
      rfl
    · cases h
  · rintro rfl
    exact dif_pos s.isValidUTF8

@[simp] theorem text_eq_ok {s : String} : text r = .ok s r' ↔ r.Holds (.text s) r' := by
  simp only [text, bind_eq_ok, resuming_eq_ok, word32_eq_ok, offset_eq_ok, bytes_eq_ok, pure_eq_ok]
  constructor
  · rintro ⟨⟨start, front⟩, r₃, ⟨length, r₁, hlength, _, _, ⟨rfl, rfl⟩, _, _, ⟨hfront, hholds⟩,
      ⟨⟩, rfl⟩, hmatch⟩
    cases hs : String.fromUTF8? ⟨front.toArray⟩ with
    | some s' =>
      rw [hs] at hmatch
      obtain ⟨rfl, rfl⟩ := pure_eq_ok.1 hmatch
      obtain rfl := fromUTF8?_eq_some_iff.1 hs
      have hsize : s'.utf8ByteSize = length.toNat := by simpa using hfront
      rw [Encoding.text, if_pos (hsize ▸ length.toNat_lt), Reader.holds_append, hsize,
        UInt32.ofNat_toNat]
      exact ⟨r₁, hlength, hholds⟩
    | none =>
      rw [hs] at hmatch
      exact absurd hmatch throw_ne_ok
  · intro hholds
    rw [Encoding.text] at hholds
    split at hholds
    · rename_i hsize
      obtain ⟨r₁, hlength, hbytes⟩ := Reader.holds_append.1 hholds
      have htoNat := UInt32.toNat_ofNat_of_lt' hsize
      refine ⟨_, _, ⟨_, _, hlength, _, _, ⟨rfl, rfl⟩, _, _, ⟨?_, hbytes⟩, rfl, rfl⟩, ?_⟩
      · rw [htoNat]
        simp
      · rw [fromUTF8?_eq_some_iff.2 rfl]
        exact pure_eq_ok.2 ⟨rfl, rfl⟩
    · cases hholds.written

theorem words_append (n : UInt32) (rest : List UInt8) :
    words (toBytes 4 n.toNat ++ rest) = n :: words rest := by
  have hread : ofBytes (toBytes 4 n.toNat) = n.toNat := ofBytes_toBytes n.toNat_lt
  simp only [toBytes, List.nil_append, List.cons_append] at hread
  simp only [toBytes, List.nil_append, List.cons_append, words, hread, UInt32.ofNat_toNat]

theorem words_flatMap (ids : List UInt32) :
    words (ids.flatMap fun id => toBytes 4 id.toNat) = ids := by
  induction ids with
  | nil => rfl
  | cons id ids ih => rw [List.flatMap_cons, words_append, ih]

/-- Bytes that split into words are the ones that the words are written as. -/
theorem flatMap_words {count : Nat} {front : List UInt8} (hlength : front.length = 4 * count) :
    (words front).length = count ∧
      ((words front).flatMap fun id => toBytes 4 id.toNat) = front := by
  induction count generalizing front with
  | zero =>
      rw [List.eq_nil_of_length_eq_zero hlength]
      exact ⟨rfl, rfl⟩
  | succ count ih =>
      have hfour : (front.take 4).length = 4 := List.length_take_of_le (by omega)
      have hrest : (front.drop 4).length = 4 * count := by
        rw [List.length_drop]
        omega
      have hlt := ofBytes_lt (front.take 4)
      rw [hfour] at hlt
      have hfront : toBytes 4 (UInt32.ofNat (ofBytes (front.take 4))).toNat ++ front.drop 4 =
          front := by
        rw [UInt32.toNat_ofNat_of_lt' hlt, toBytes_ofBytes hfour, List.take_append_drop]
      obtain ⟨hcount, hwords⟩ := ih hrest
      rw [← hfront, words_append, List.length_cons, List.flatMap_cons, hcount, hwords]
      exact ⟨rfl, rfl⟩

theorem length_flatMap_toBytes (ids : List UInt32) :
    (ids.flatMap fun id => toBytes 4 id.toNat).length = 4 * ids.length := by
  induction ids with
  | nil => rfl
  | cons id ids ih =>
      rw [List.flatMap_cons, List.length_append, length_toBytes, ih, List.length_cons]
      omega

theorem idList_eq_ok (what : String) {ids : List UInt32} :
    idList r = .ok ids r' ↔ r.Holds (.idList what ids) r' := by
  simp only [idList, bind_eq_ok, resuming_eq_ok, word16_eq_ok, bytes_eq_ok, pure_eq_ok]
  constructor
  · rintro ⟨count, r₁, hcount, front, _, ⟨hlength, hholds⟩, rfl, rfl⟩
    obtain ⟨hids, hfront⟩ := flatMap_words hlength
    rw [Encoding.idList, if_pos (hids ▸ count.toNat_lt), Reader.holds_append, hids, hfront,
      UInt16.ofNat_toNat]
    exact ⟨r₁, hcount, hholds⟩
  · intro hholds
    rw [Encoding.idList] at hholds
    split at hholds
    · rename_i hlt
      obtain ⟨r₁, hcount, hbytes⟩ := Reader.holds_append.1 hholds
      have htoNat := UInt16.toNat_ofNat_of_lt' hlt
      refine ⟨_, _, hcount, _, _, ⟨?_, hbytes⟩, words_flatMap ids, rfl⟩
      rw [htoNat, length_flatMap_toBytes]
    · cases hholds.written

/-! ## Codes -/

/-- A byte is read as what it stands for. -/
theorem coded_eq_ok_iff {ofCode? : UInt8 → Option α} {reason : String} {a : α} :
    coded ofCode? reason r = .ok a r' ↔ ∃ b, ofCode? b = some a ∧ r.Holds (.byte b) r' := by
  simp only [coded, bind_eq_ok, offset_eq_ok, byte_eq_ok]
  constructor
  · rintro ⟨_, _, ⟨rfl, rfl⟩, b, r₁, hb, hmatch⟩
    cases ha : ofCode? b with
    | some a' =>
      rw [ha] at hmatch
      obtain ⟨rfl, rfl⟩ := pure_eq_ok.1 hmatch
      exact ⟨b, ha, hb⟩
    | none =>
      rw [ha] at hmatch
      exact absurd hmatch throw_ne_ok
  · rintro ⟨b, ha, hholds⟩
    refine ⟨_, _, ⟨rfl, rfl⟩, b, r', hholds, ?_⟩
    rw [ha]
    exact pure_eq_ok.2 ⟨rfl, rfl⟩

/-- A byte is read as what it is the code of. -/
theorem coded_eq_ok {ofCode? : UInt8 → Option α} {code : α → UInt8} {reason : String} {a : α}
    (hcode : ∀ b a, ofCode? b = some a ↔ b = code a) :
    coded ofCode? reason r = .ok a r' ↔ r.Holds (.byte (code a)) r' := by
  simp only [coded_eq_ok_iff, hcode, exists_eq_left]

end Read

end Panel.Wire
