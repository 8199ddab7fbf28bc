import Mathlib.Data.List.Induction
import Panel.Wire.Encoding
import Panel.Wire.Reader

/-!
# Bytes between two places of a buffer

`Reader.Holds r e r'` says that the bytes from `r` up to `r'` are the ones that the encoding `e`
writes.  A field and its encoding belong together when the field is read from `r` up to `r'` exactly
if its encoding stands there.  Each such law is an equivalence: from right to left it reads back
what was written, from left to right it writes again what was read.
-/

namespace Panel.Wire

/-- What stands from `r` up to `r'` is what an encoding writes. -/
structure Reader.Holds (r : Reader) (e : Encoding) (r' : Reader) : Prop where
  written : e.failure = none
  rest : r.rest = e.bytes ++ r'.rest
  offset : r'.offset = r.offset + e.bytes.length

theorem ofBytes_lt (bytes : List UInt8) : ofBytes bytes < capacity bytes.length := by
  induction bytes using List.reverseRecOn with
  | nil => decide
  | append_singleton bytes b ih =>
      have hb := b.toNat_lt
      rw [ofBytes_append_singleton, List.length_append, List.length_singleton, capacity]
      omega

namespace Encoding

theorem bytes_append {e f : Encoding} (he : e.failure = none) :
    (e ++ f).bytes = e.bytes ++ f.bytes := by
  obtain ⟨bytes, failure⟩ := e
  cases he
  rfl

theorem failure_append {e f : Encoding} :
    (e ++ f).failure = none ↔ e.failure = none ∧ f.failure = none := by
  rcases e with ⟨bytes, _ | error⟩
  · change f.failure = none ↔ none = none ∧ f.failure = none
    simp
  · exact iff_of_false nofun nofun

end Encoding

namespace Reader

variable {r r' : Reader} {e f : Encoding}

@[simp] theorem holds_empty : r.Holds .empty r' ↔ r' = r := by
  constructor
  · rintro ⟨-, hrest, hoffset⟩
    cases r
    cases r'
    simp_all [Encoding.empty, Encoding.ofBytes]
  · rintro rfl
    exact ⟨rfl, rfl, rfl⟩

theorem holds_append : r.Holds (e ++ f) r' ↔ ∃ r₁, r.Holds e r₁ ∧ r₁.Holds f r' := by
  constructor
  · rintro ⟨hwritten, hrest, hoffset⟩
    obtain ⟨he, hf⟩ := Encoding.failure_append.1 hwritten
    rw [Encoding.bytes_append he] at hrest hoffset
    refine ⟨⟨r.offset + e.bytes.length, f.bytes ++ r'.rest⟩, ⟨he, ?_, rfl⟩, hf, rfl, ?_⟩
    · rw [hrest, List.append_assoc]
    · rw [hoffset, List.length_append, Nat.add_assoc]
  · rintro ⟨r₁, he, hf⟩
    have hbytes := Encoding.bytes_append (f := f) he.written
    refine ⟨Encoding.failure_append.2 ⟨he.written, hf.written⟩, ?_, ?_⟩
    · rw [hbytes, he.rest, hf.rest, List.append_assoc]
    · rw [hbytes, hf.offset, he.offset, List.length_append, Nat.add_assoc]

theorem Holds.append {r₁ : Reader} (he : r.Holds e r₁) (hf : r₁.Holds f r') :
    r.Holds (e ++ f) r' :=
  holds_append.2 ⟨r₁, he, hf⟩

end Reader

namespace Read

variable {α β : Type} {r r' : Reader}

/-! ## Steps -/

theorem bind_eq_ok {m : Read α} {f : α → Read β} {b : β} :
    (m >>= f) r = .ok b r' ↔ ∃ a r₁, m r = .ok a r₁ ∧ f a r₁ = .ok b r' := by
  change EStateM.bind m f r = .ok b r' ↔ _
  unfold EStateM.bind
  cases hm : m r with
  | ok a r₁ =>
      constructor
      · intro hf
        exact ⟨a, r₁, rfl, hf⟩
      · rintro ⟨_, _, ⟨⟩, hf⟩
        exact hf
  | error error r₁ => simp

theorem pure_eq_ok {a b : α} : (pure a : Read α) r = .ok b r' ↔ a = b ∧ r = r' := by
  change EStateM.Result.ok a r = .ok b r' ↔ _
  simp

theorem throw_ne_ok {error : DecodeError} {a : α} : (throw error : Read α) r ≠ .ok a r' :=
  nofun

theorem offset_eq_ok {n : Nat} : offset r = .ok n r' ↔ r.offset = n ∧ r = r' := by
  change EStateM.Result.ok r.offset r = .ok n r' ↔ _
  simp

/-! ## Numbers -/

theorem bytes_eq_ok {count : Nat} {front : List UInt8} :
    bytes count r = .ok front r' ↔ front.length = count ∧ r.Holds (.ofBytes front) r' := by
  unfold bytes
  simp only [List.length_take]
  split
  · rename_i hshort
    simp only [reduceCtorEq, false_iff, not_and]
    rintro hlength ⟨-, hrest, -⟩
    have hle := congrArg List.length hrest
    simp only [Encoding.ofBytes, List.length_append] at hle
    omega
  · rename_i hlong
    have hle : count ≤ r.rest.length := by omega
    simp only [EStateM.Result.ok.injEq]
    constructor
    · rintro ⟨rfl, rfl⟩
      have hlength : (r.rest.take count).length = count := List.length_take_of_le hle
      refine ⟨hlength, rfl, (List.take_append_drop count r.rest).symm, ?_⟩
      simp only [Encoding.ofBytes, hlength]
    · rintro ⟨hlength, -, hrest, hoffset⟩
      simp only [Encoding.ofBytes] at hrest hoffset
      subst hlength
      refine ⟨by rw [hrest, List.take_left], ?_⟩
      cases r'
      simp_all

/-- A number of `width` bytes is read wherever it is written. -/
theorem number_eq_ok {width : Nat} {ofNat : Nat → α} {toNat : α → Nat} {a : α}
    (hofNat : ∀ a, ofNat (toNat a) = a) (hlt : ∀ a, toNat a < capacity width)
    (htoNat : ∀ n < capacity width, toNat (ofNat n) = n) :
    (do return ofNat (ofBytes (← bytes width)) : Read α) r = .ok a r' ↔
      r.Holds (.ofBytes (toBytes width (toNat a))) r' := by
  simp only [bind_eq_ok, bytes_eq_ok, pure_eq_ok]
  constructor
  · rintro ⟨front, _, ⟨hlength, hholds⟩, rfl, rfl⟩
    rwa [htoNat _ (hlength ▸ ofBytes_lt front), toBytes_ofBytes hlength]
  · intro hholds
    refine ⟨_, _, ⟨length_toBytes width (toNat a), hholds⟩, ?_, rfl⟩
    rw [ofBytes_toBytes (hlt a), hofNat]

@[simp] theorem byte_eq_ok {b : UInt8} : byte r = .ok b r' ↔ r.Holds (.byte b) r' := by
  have hbytes : toBytes 1 b.toNat = [b] := by simp [toBytes]
  rw [Encoding.byte, ← hbytes]
  exact number_eq_ok (fun _ => UInt8.ofNat_toNat) UInt8.toNat_lt
    fun _ => UInt8.toNat_ofNat_of_lt'

@[simp] theorem word16_eq_ok {n : UInt16} : word16 r = .ok n r' ↔ r.Holds (.word16 n) r' :=
  number_eq_ok (fun _ => UInt16.ofNat_toNat) UInt16.toNat_lt fun _ => UInt16.toNat_ofNat_of_lt'

@[simp] theorem word32_eq_ok {n : UInt32} : word32 r = .ok n r' ↔ r.Holds (.word32 n) r' :=
  number_eq_ok (fun _ => UInt32.ofNat_toNat) UInt32.toNat_lt fun _ => UInt32.toNat_ofNat_of_lt'

end Read

end Panel.Wire
