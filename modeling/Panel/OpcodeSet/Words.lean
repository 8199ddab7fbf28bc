import Panel.OpcodeSet

/-!
# Sets of opcodes in machine words

A set of bytes in four words of 64 bits.  The two upper bits of a byte tell its word, and the six
lower ones its bit in that word.

* `OpcodeWords.insert` and `OpcodeWords.contains` shift a bit to its place and mask with it, the
  other operations work on whole words;
* `OpcodeSet.words` are the words that hold the 256 bits of a set.
-/

namespace Panel

/-- A set of bytes in four words. -/
structure OpcodeWords where
  words : Vector UInt64 4
deriving DecidableEq, Repr

namespace OpcodeWords

/-- The word with a number. -/
def word (s : OpcodeWords) (j : Fin 4) : UInt64 := s.words[j]

/-- No byte. -/
def empty : OpcodeWords := ⟨.replicate 4 0⟩

theorem shift_lt (b : UInt8) : (b >>> 6).toNat < 4 := by
  have hlt := b.toNat_lt
  rw [UInt8.toNat_shiftRight, Nat.shiftRight_eq_div_pow]
  show b.toNat / 64 < 4
  omega

/-- The number of the word that holds the bit of a byte. -/
def place (b : UInt8) : Fin 4 := ⟨(b >>> 6).toNat, shift_lt b⟩

/-- The bit of a byte, at its place in its word. -/
def mask (b : UInt8) : UInt64 := 1 <<< (b &&& 63).toUInt64

/-- The set with one more member. -/
def insert (s : OpcodeWords) (b : UInt8) : OpcodeWords :=
  ⟨s.words.set (place b) (s.word (place b) ||| mask b)⟩

/-- The set with more members. -/
def insertAll (s : OpcodeWords) (bs : List UInt8) : OpcodeWords := bs.foldl insert s

/-- The members of either set, word by word. -/
def union (s t : OpcodeWords) : OpcodeWords := ⟨s.words.zipWith (· ||| ·) t.words⟩

/-- Whether a byte is a member. -/
def contains (s : OpcodeWords) (b : UInt8) : Bool := s.word (place b) &&& mask b != 0

/-- Whether every member of `t` is a member of `s`, word by word up to the first that has more. -/
def isSuperset (s t : OpcodeWords) : Bool :=
  (t.words.zip s.words).all fun (other, word) => other &&& ~~~word == 0

/-- The members in ascending order. -/
def members (s : OpcodeWords) : List UInt8 := ((List.range 256).map UInt8.ofNat).filter s.contains

/-- The number of members, as the bits that are set in each word. -/
def size (s : OpcodeWords) : Nat :=
  s.words.foldl (fun count word => count + word.toBitVec.cpop.toNat) 0

/-- Whether there is no member. -/
def isEmpty (s : OpcodeWords) : Bool := s.words == .replicate 4 0

end OpcodeWords

/-- The words that hold the bits of a set, the lowest first. -/
def OpcodeSet.words (s : OpcodeSet) : OpcodeWords :=
  ⟨.ofFn fun i => .ofBitVec (s.bits.extractLsb' (64 * i) 64)⟩

end Panel
