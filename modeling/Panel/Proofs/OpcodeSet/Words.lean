import Mathlib.Data.Finset.Card
import Panel.OpcodeSet.Words

/-!
# The laws of sets of opcodes in words

Membership carries everything: what an operation does to a word is told by its bits, and each bit of
each word is the bit of one byte.

* `mem_insertAll`, `mem_union`, `isSuperset_iff`, `ext`: the operations as those on sets of bytes;
* `size_eq`: the bits that are set are as many as the members;
* `OpcodeSet.words_insertAll` and those after it: the set of 256 bits answers as its words do.
-/

namespace Panel

namespace OpcodeWords
variable {s t : OpcodeWords} {b c : UInt8} {bs : List UInt8} {i : Nat}

theorem val_place (b : UInt8) : (place b).val = b.toNat / 64 := by
  show (b >>> 6).toNat = _
  rw [UInt8.toNat_shiftRight, Nat.shiftRight_eq_div_pow]
  rfl

theorem mod_lt (b : UInt8) : b.toNat % 64 < 64 := Nat.mod_lt _ (by decide)

theorem toBitVec_mask (b : UInt8) : (mask b).toBitVec = BitVec.twoPow 64 (b.toNat % 64) := by
  have hand : (b &&& 63).toNat = b.toNat % 64 := by
    rw [UInt8.toNat_and]
    exact Nat.and_two_pow_sub_one_eq_mod b.toNat 6
  have hshift : ((b &&& 63).toUInt64.toBitVec % 64).toNat = b.toNat % 64 := by
    show (b &&& 63).toUInt64.toNat % 64 = _
    rw [UInt8.toNat_toUInt64, hand, Nat.mod_mod]
  rw [mask, UInt64.toBitVec_shiftLeft, BitVec.shiftLeft_eq', hshift, BitVec.twoPow_eq]
  rfl

/-- A byte is a member if its bit is set. -/
theorem contains_eq (s : OpcodeWords) (b : UInt8) :
    s.contains b = (s.word (place b)).toBitVec.getLsbD (b.toNat % 64) := by
  have hpos : BitVec.twoPow 64 (b.toNat % 64) ≠ 0#64 := by
    intro hzero
    have hbit := congrArg (fun x => x.getLsbD (b.toNat % 64)) hzero
    simp [mod_lt] at hbit
  rw [Bool.eq_iff_iff, contains, bne_iff_ne, ne_eq, ← UInt64.toBitVec_inj, UInt64.toBitVec_and,
    toBitVec_mask, BitVec.and_twoPow]
  split <;> simp_all

/-! ## Members -/

instance : Membership UInt8 OpcodeWords := ⟨fun s b => s.contains b = true⟩

theorem mem_def : b ∈ s ↔ (s.word (place b)).toBitVec.getLsbD (b.toNat % 64) = true := by
  rw [← contains_eq]
  rfl

@[simp] theorem word_empty (j : Fin 4) : empty.word j = 0 := by
  simp [word, empty]

@[simp] theorem word_insert (s : OpcodeWords) (b : UInt8) (j : Fin 4) :
    (s.insert b).word j = if place b = j then s.word j ||| mask b else s.word j := by
  by_cases hplace : place b = j
  · subst hplace
    simp [word, insert]
  · have hne : (place b).val ≠ j.val := mt Fin.ext hplace
    simp [word, insert, hplace, hne]

@[simp] theorem word_union (s t : OpcodeWords) (j : Fin 4) :
    (s.union t).word j = s.word j ||| t.word j := by
  simp [word, union]

@[simp] theorem not_mem_empty (b : UInt8) : b ∉ empty := by
  simp [mem_def]

@[simp] theorem mem_insert : b ∈ s.insert c ↔ b = c ∨ b ∈ s := by
  have hbyte : b = c ↔ place c = place b ∧ b.toNat % 64 = c.toNat % 64 := by
    rw [Fin.ext_iff, val_place, val_place, ← UInt8.toNat_inj]
    omega
  rw [mem_def, mem_def, hbyte, word_insert]
  by_cases hplace : place c = place b
  · rw [if_pos hplace, UInt64.toBitVec_or, BitVec.getLsbD_or, toBitVec_mask, BitVec.getLsbD_twoPow]
    simp only [hplace, mod_lt, Bool.or_eq_true, Bool.and_eq_true, decide_eq_true_eq, true_and]
    rw [or_comm, @eq_comm _ (c.toNat % 64)]
  · simp [hplace]

@[simp] theorem mem_insertAll : b ∈ s.insertAll bs ↔ b ∈ bs ∨ b ∈ s := by
  induction bs generalizing s with
  | nil => simp [insertAll]
  | cons c bs ih =>
      have hnext : s.insertAll (c :: bs) = (s.insert c).insertAll bs := rfl
      rw [hnext, ih, mem_insert, List.mem_cons]
      tauto

@[simp] theorem mem_union : b ∈ s.union t ↔ b ∈ s ∨ b ∈ t := by
  simp [mem_def]

/-- Each bit of each word is the bit of some byte. -/
theorem getLsbD_word (s : OpcodeWords) (j : Fin 4) (hi : i < 64) :
    (s.word j).toBitVec.getLsbD i = s.contains (.ofNat (64 * j + i)) := by
  have hlt := j.isLt
  have hnumber : (UInt8.ofNat (64 * j + i)).toNat = 64 * j + i :=
    UInt8.toNat_ofNat_of_lt' (show _ < 256 by omega)
  have hplace : place (.ofNat (64 * j + i)) = j := by
    apply Fin.ext
    rw [val_place, hnumber]
    omega
  have hbit : (64 * j.val + i) % 64 = i := by omega
  rw [contains_eq, hplace, hnumber, hbit]

theorem ext (h : ∀ b : UInt8, b ∈ s ↔ b ∈ t) : s = t := by
  have hwords (j : Fin 4) : s.word j = t.word j := by
    apply UInt64.toBitVec_inj.1
    apply BitVec.eq_of_getLsbD_eq
    intro i hi
    rw [getLsbD_word s j hi, getLsbD_word t j hi]
    exact Bool.eq_iff_iff.2 (h _)
  cases s
  cases t
  congr 1
  exact Vector.ext fun j hj => hwords ⟨j, hj⟩

theorem isSuperset_iff : s.isSuperset t = true ↔ ∀ b : UInt8, b ∈ t → b ∈ s := by
  have hword (j : Fin 4) : t.word j &&& ~~~s.word j = 0 ↔
      ∀ i < 64, (t.word j).toBitVec.getLsbD i = true → (s.word j).toBitVec.getLsbD i = true := by
    rw [← UInt64.toBitVec_inj, BitVec.eq_of_getLsbD_eq_iff]
    refine forall₂_congr fun i hi => ?_
    simp [hi]
  have hall : s.isSuperset t = true ↔ ∀ j : Fin 4, t.word j &&& ~~~s.word j = 0 := by
    simp [isSuperset, word, Vector.all_eq_true, Fin.forall_iff]
  rw [hall]
  constructor
  · intro h b hb
    exact mem_def.2 ((hword _).1 (h (place b)) _ (mod_lt b) (mem_def.1 hb))
  · intro h j
    refine (hword j).2 fun i hi hbit => ?_
    rw [getLsbD_word _ j hi] at hbit ⊢
    exact h _ hbit

theorem pairwise_members (s : OpcodeWords) : s.members.Pairwise (· < ·) := by
  have hbytes : ((List.range 256).map UInt8.ofNat).Pairwise (· < ·) := by
    rw [List.pairwise_map]
    refine List.pairwise_lt_range.imp_of_mem fun {i j} hi hj hlt => ?_
    rw [List.mem_range] at hi hj
    rw [UInt8.lt_iff_toNat_lt, UInt8.toNat_ofNat_of_lt' hi, UInt8.toNat_ofNat_of_lt' hj]
    exact hlt
  exact hbytes.filter _

theorem mem_members : b ∈ s.members ↔ b ∈ s := by
  rw [members, List.mem_filter]
  refine and_iff_right (List.mem_map.2 ⟨b.toNat, List.mem_range.2 b.toNat_lt, ?_⟩)
  exact UInt8.ofNat_toNat

theorem isEmpty_iff : s.isEmpty = true ↔ s = empty := by
  cases s
  simp [isEmpty, empty]

/-! ## Counting -/

/-- The bits of a word are counted from the highest down to the lowest. -/
theorem toNat_cpop (x : BitVec 64) : x.cpop.toNat = (List.range 64).countP x.getLsbD := by
  have hcount (n count : Nat) :
      x.cpopNatRec n count = count + (List.range n).countP x.getLsbD := by
    induction n generalizing count with
    | zero => simp
    | succ n ih =>
        rw [BitVec.cpopNatRec_succ, ih, List.range_succ, List.countP_append, List.countP_singleton]
        cases x.getLsbD n
        · simp
        · simp
          omega
  rw [BitVec.toNat_cpop, hcount, Nat.zero_add]

theorem size_words (s : OpcodeWords) :
    s.size = (s.word 0).toBitVec.cpop.toNat + (s.word 1).toBitVec.cpop.toNat +
      (s.word 2).toBitVec.cpop.toNat + (s.word 3).toBitVec.cpop.toNat := by
  have hfour : s.words = #v[s.word 0, s.word 1, s.word 2, s.word 3] := by
    apply Vector.ext
    intro j hj
    have hcases : j = 0 ∨ j = 1 ∨ j = 2 ∨ j = 3 := by omega
    obtain rfl | rfl | rfl | rfl := hcases
    all_goals rfl
  rw [size, hfour]
  simp

/-- The bits of the four words, one word after the other, are those of the 256 bytes. -/
theorem size_eq (s : OpcodeWords) : s.size = s.members.length := by
  let member (i : Nat) : Bool := s.contains (.ofNat i)
  have hword (j : Fin 4) : (s.word j).toBitVec.cpop.toNat =
      (List.range 64).countP fun i => member (64 * j + i) := by
    rw [toNat_cpop]
    refine List.countP_congr fun i hi => ?_
    rw [getLsbD_word s j (List.mem_range.1 hi)]
  have hadd (m n : Nat) : (List.range (m + n)).countP member =
      (List.range m).countP member + (List.range n).countP fun i => member (m + i) := by
    rw [List.range_add, List.countP_append, List.countP_map]
    rfl
  have hfirst : (List.range 64).countP member = (s.word 0).toBitVec.cpop.toNat := by
    simp [hword]
  calc s.size
    _ = (List.range (64 + 64 + 64 + 64)).countP member := by
      rw [hadd, hadd, hadd, hfirst, size_words, hword 1, hword 2, hword 3]
      rfl
    _ = s.members.length := by
      rw [members, ← List.countP_eq_length_filter, List.countP_map]
      rfl

theorem size_insertAll (bs : List UInt8) :
    (empty.insertAll bs).size = bs.toFinset.card := by
  have hmembers : (empty.insertAll bs).members.toFinset = bs.toFinset := by
    ext b
    simp [mem_members]
  have hnodup : (empty.insertAll bs).members.Nodup :=
    (pairwise_members _).imp fun hlt => UInt8.ne_of_lt hlt
  rw [size_eq, ← hmembers, List.toFinset_card_of_nodup hnodup]

end OpcodeWords

/-! ## The set of 256 bits -/

namespace OpcodeSet

variable {s t : OpcodeSet} {b : UInt8}

theorem word_words (s : OpcodeSet) (j : Fin 4) :
    (s.words.word j).toBitVec = s.bits.extractLsb' (64 * j) 64 := by
  simp [words, OpcodeWords.word]

theorem contains_words (s : OpcodeSet) (b : UInt8) : s.words.contains b = s.contains b := by
  have hbit : 64 * (b.toNat / 64) + b.toNat % 64 = b.toNat := by omega
  rw [OpcodeWords.contains_eq, word_words, BitVec.getLsbD_extractLsb', OpcodeWords.val_place, hbit]
  simp [OpcodeWords.mod_lt, contains]

theorem mem_words : b ∈ s.words ↔ b ∈ s := by
  rw [mem_def, ← contains_words]
  rfl

theorem words_inj : s.words = t.words ↔ s = t := by
  constructor
  · intro hwords
    exact ext fun b => by rw [← mem_words, hwords, mem_words]
  · rintro rfl
    rfl

theorem words_empty : empty.words = .empty := by decide

theorem words_insert (s : OpcodeSet) (b : UInt8) : (s.insert b).words = s.words.insert b :=
  OpcodeWords.ext fun c => by simp [mem_words]

theorem words_insertAll (s : OpcodeSet) (bs : List UInt8) :
    (s.insertAll bs).words = s.words.insertAll bs := by
  induction bs generalizing s with
  | nil => rfl
  | cons b bs ih =>
      show ((s.insert b).insertAll bs).words = (s.words.insert b).insertAll bs
      rw [ih, words_insert]

theorem words_union (s t : OpcodeSet) : (s.union t).words = s.words.union t.words :=
  OpcodeWords.ext fun c => by simp [mem_words]

theorem isSuperset_words (s t : OpcodeSet) : s.words.isSuperset t.words = s.isSuperset t := by
  rw [Bool.eq_iff_iff, OpcodeWords.isSuperset_iff, isSuperset_iff]
  simp only [mem_words]

theorem members_words (s : OpcodeSet) : s.words.members = s.members := by
  rw [OpcodeWords.members, members, funext s.contains_words]

theorem size_words (s : OpcodeSet) : s.words.size = s.size := by
  rw [OpcodeWords.size_eq, members_words, members, ← List.countP_eq_length_filter, List.countP_map,
    size]
  refine List.countP_congr fun i hi => ?_
  have hnumber := UInt8.toNat_ofNat_of_lt' (List.mem_range.1 hi)
  simp [contains, hnumber]

theorem isEmpty_words (s : OpcodeSet) : s.words.isEmpty = s.isEmpty := by
  have hzero : s.isEmpty = true ↔ s = empty := by
    cases s
    simp [isEmpty, empty]
  rw [Bool.eq_iff_iff, OpcodeWords.isEmpty_iff, ← words_empty, words_inj, hzero]

/-- A set of 256 bits and one in words that have the same members tell of each byte and of all of
them the same. -/
structure AnswersAs (s : OpcodeSet) (w : OpcodeWords) : Prop where
  words : s.words = w
  contains : ∀ b, s.contains b = w.contains b
  members : s.members = w.members
  size : s.size = w.size
  isEmpty : s.isEmpty = w.isEmpty

theorem AnswersAs.of_words {w : OpcodeWords} (h : s.words = w) : s.AnswersAs w := by
  subst h
  exact ⟨rfl, fun b => (s.contains_words b).symm, s.members_words.symm, s.size_words.symm,
    s.isEmpty_words.symm⟩

end OpcodeSet

/-- A set that was filled from a list is the finite set of the list's bytes, in words and in the
256 bits alike. -/
theorem OpcodeWords.finite_set (a b : List UInt8) :
    (∀ c, (empty.insertAll a).contains c = true ↔ c ∈ a) ∧
    (∀ c, ((empty.insertAll a).union (empty.insertAll b)).contains c = true ↔ c ∈ a ∨ c ∈ b) ∧
    ((empty.insertAll a).isSuperset (empty.insertAll b) = true ↔ ∀ c ∈ b, c ∈ a) ∧
    (empty.insertAll a = empty.insertAll b ↔ ∀ c, c ∈ a ↔ c ∈ b) ∧
    ((empty.insertAll a).members.Pairwise (· < ·) ∧ ∀ c, c ∈ (empty.insertAll a).members ↔ c ∈ a) ∧
    (empty.insertAll a).size = a.toFinset.card ∧
    ((empty.insertAll a).isEmpty = true ↔ a = []) ∧
    (OpcodeSet.empty.insertAll a).AnswersAs (empty.insertAll a) ∧
    ((OpcodeSet.empty.insertAll a).union (OpcodeSet.empty.insertAll b)).AnswersAs
      ((empty.insertAll a).union (empty.insertAll b)) ∧
    (OpcodeSet.empty.insertAll a).isSuperset (OpcodeSet.empty.insertAll b) =
      (empty.insertAll a).isSuperset (empty.insertAll b) ∧
    (OpcodeSet.empty.insertAll a = OpcodeSet.empty.insertAll b ↔
      empty.insertAll a = empty.insertAll b) := by
  have hmem (bs : List UInt8) (c : UInt8) : c ∈ empty.insertAll bs ↔ c ∈ bs := by simp
  have hwords (bs : List UInt8) : (OpcodeSet.empty.insertAll bs).words = empty.insertAll bs := by
    rw [OpcodeSet.words_insertAll, OpcodeSet.words_empty]
  have hequal : empty.insertAll a = empty.insertAll b ↔ ∀ c, c ∈ a ↔ c ∈ b := by
    constructor
    · intro hsame c
      rw [← hmem a c, ← hmem b c]
      exact iff_of_eq (congrArg (c ∈ ·) hsame)
    · intro hsame
      exact ext fun c => by rw [hmem, hmem, hsame]
  have hsuperset : (empty.insertAll a).isSuperset (empty.insertAll b) = true ↔ ∀ c ∈ b, c ∈ a := by
    rw [isSuperset_iff]
    exact forall_congr' fun c => imp_congr (hmem b c) (hmem a c)
  have hnone : (empty.insertAll a).isEmpty = true ↔ a = [] := by
    rw [isEmpty_iff, List.eq_nil_iff_forall_not_mem]
    constructor
    · intro hempty c hc
      have hmember := (hmem a c).2 hc
      exact not_mem_empty c (hempty ▸ hmember)
    · intro hno
      exact ext fun c => iff_of_false (mt (hmem a c).1 (hno c)) (not_mem_empty c)
  refine ⟨hmem a, fun c => ?_, hsuperset, hequal, ⟨pairwise_members _, fun c => ?_⟩,
    size_insertAll a, hnone, .of_words (hwords a), .of_words ?_, ?_, ?_⟩
  · exact mem_union.trans (or_congr (hmem a c) (hmem b c))
  · exact mem_members.trans (hmem a c)
  · rw [OpcodeSet.words_union, hwords, hwords]
  · rw [← hwords a, ← hwords b, OpcodeSet.isSuperset_words]
  · rw [← hwords a, ← hwords b, OpcodeSet.words_inj]

end Panel
