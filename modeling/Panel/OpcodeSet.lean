/-!
# Sets of opcodes

A set of bytes, kept as 256 bits, of which bit `b` tells whether byte `b` is a member.

* `mem_insert`, `mem_union`: what the members of a grown set are;
* `isSuperset_iff`: a superset has every member;
* `ext`: sets with the same members are the same set.
-/

namespace Panel

/-- A set of bytes. -/
structure OpcodeSet where
  bits : BitVec 256
deriving DecidableEq, Repr

namespace OpcodeSet

/-- No byte. -/
def empty : OpcodeSet := ⟨0⟩

/-- Whether a byte is a member. -/
def contains (s : OpcodeSet) (b : UInt8) : Bool := s.bits.getLsbD b.toNat

/-- The set with one more member. -/
def insert (s : OpcodeSet) (b : UInt8) : OpcodeSet := ⟨s.bits ||| BitVec.twoPow 256 b.toNat⟩

/-- The set with more members. -/
def insertAll (s : OpcodeSet) (bs : List UInt8) : OpcodeSet := bs.foldl insert s

/-- The members of either set. -/
def union (s t : OpcodeSet) : OpcodeSet := ⟨s.bits ||| t.bits⟩

/-- Whether every member of `t` is a member of `s`. -/
def isSuperset (s t : OpcodeSet) : Bool := t.bits &&& ~~~s.bits == 0

/-- The members in ascending order. -/
def members (s : OpcodeSet) : List UInt8 := ((List.range 256).map UInt8.ofNat).filter s.contains

/-- The number of members. -/
def size (s : OpcodeSet) : Nat := (List.range 256).countP s.bits.getLsbD

/-- Whether there is no member. -/
def isEmpty (s : OpcodeSet) : Bool := s.bits == 0

/-! ## Members -/

instance : Membership UInt8 OpcodeSet := ⟨fun s b => s.contains b = true⟩

instance (b : UInt8) (s : OpcodeSet) : Decidable (b ∈ s) :=
  inferInstanceAs (Decidable (s.contains b = true))

theorem mem_def {b : UInt8} {s : OpcodeSet} : b ∈ s ↔ s.contains b = true := Iff.rfl

@[simp] theorem not_mem_empty (b : UInt8) : b ∉ empty := by
  simp [mem_def, contains, empty]

@[simp] theorem mem_insert {b c : UInt8} {s : OpcodeSet} : b ∈ s.insert c ↔ b = c ∨ b ∈ s := by
  have small : b.toNat < 256 := b.toNat_lt
  simp [mem_def, contains, insert, small]
  grind [UInt8.toNat_inj]

@[simp] theorem mem_union {b : UInt8} {s t : OpcodeSet} : b ∈ s.union t ↔ b ∈ s ∨ b ∈ t := by
  simp [mem_def, contains, union]

theorem isSuperset_iff {s t : OpcodeSet} : s.isSuperset t = true ↔ ∀ b : UInt8, b ∈ t → b ∈ s := by
  rw [isSuperset, beq_iff_eq]
  constructor
  · intro hnone b hb
    have small : b.toNat < 256 := b.toNat_lt
    have member : t.bits.getLsbD b.toNat = true := hb
    have hbit := congrArg (fun bits => bits.getLsbD b.toNat) hnone
    show s.bits.getLsbD b.toNat = true
    simpa [small, member] using hbit
  · intro hall
    apply BitVec.eq_of_getLsbD_eq
    intro i hi
    have hb := hall (.ofNat i)
    simpa [mem_def, contains, Nat.mod_eq_of_lt hi, hi] using hb

/-- Sets with the same members are the same set. -/
theorem ext {s t : OpcodeSet} (h : ∀ b : UInt8, b ∈ s ↔ b ∈ t) : s = t := by
  suffices s.bits = t.bits by cases s; cases t; simp_all
  apply BitVec.eq_of_getLsbD_eq
  intro i hi
  have := h (.ofNat i)
  simpa [mem_def, contains, Nat.mod_eq_of_lt hi] using this

end OpcodeSet

end Panel
