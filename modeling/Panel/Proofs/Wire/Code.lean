import Panel.Wire.Operation

/-!
# Codes

Each thing that travels as a byte is the reading of its own code and of no other byte; a color is
the reading of its own word and of no other word.
-/

namespace Panel

theorem Opcode.ofCode?_eq_some_iff {b : UInt8} {op : Opcode} :
    ofCode? b = some op ↔ b = op.code := by
  constructor
  · intro h
    unfold ofCode? at h
    split at h <;> cases h <;> rfl
  · rintro rfl
    exact ofCode?_code op

theorem BinaryOp.ofCode?_eq_some_iff {b : UInt8} {op : BinaryOp} :
    ofCode? b = some op ↔ b = op.code := by
  constructor
  · intro h
    unfold ofCode? at h
    split at h <;> cases h <;> rfl
  · rintro rfl
    exact ofCode?_code op

theorem UnaryOp.ofCode?_eq_some_iff {b : UInt8} {op : UnaryOp} :
    ofCode? b = some op ↔ b = op.code := by
  constructor
  · intro h
    unfold ofCode? at h
    split at h <;> cases h <;> rfl
  · rintro rfl
    exact ofCode?_code op

theorem Arrangement.ofCode?_eq_some_iff {b : UInt8} {a : Arrangement} :
    ofCode? b = some a ↔ b = a.code := by
  constructor
  · intro h
    unfold ofCode? at h
    split at h <;> cases h <;> rfl
  · rintro rfl
    exact ofCode?_code a

theorem Alignment.ofCode?_eq_some_iff {b : UInt8} {a : Alignment} :
    ofCode? b = some a ↔ b = a.code := by
  constructor
  · intro h
    unfold ofCode? at h
    split at h <;> cases h <;> rfl
  · rintro rfl
    exact ofCode?_code a

theorem Visibility.ofCode?_eq_some_iff {b : UInt8} {v : Visibility} :
    ofCode? b = some v ↔ b = v.code := by
  constructor
  · intro h
    unfold ofCode? at h
    split at h <;> cases h <;> rfl
  · rintro rfl
    exact ofCode?_code v

theorem TouchTrigger.ofCode?_eq_some_iff {b : UInt8} {t : TouchTrigger} :
    ofCode? b = some t ↔ b = t.code := by
  constructor
  · intro h
    unfold ofCode? at h
    split at h <;> cases h <;> rfl
  · rintro rfl
    exact ofCode?_code t

theorem Wire.flagOfCode?_eq_some_iff {b : UInt8} {flag : Bool} :
    flagOfCode? b = some flag ↔ b = if flag then 1 else 0 := by
  constructor
  · intro h
    unfold flagOfCode? at h
    split at h <;> cases h <;> rfl
  · rintro rfl
    cases flag <;> rfl

/-- The units of a request that is not fixed are not looked at. -/
theorem Dimension.ofCode?_eq_some_iff {b : UInt8} {units : Single} {d : Dimension} :
    ofCode? b units = some d ↔ b = d.code ∧ (d.code = 1 → units = d.units) := by
  constructor
  · intro h
    unfold ofCode? at h
    split at h <;> cases h <;> simp [code, Dimension.units]
  · rintro ⟨rfl, hunits⟩
    cases d with
    | wrap => rfl
    | fixed units => exact congrArg (some ∘ fixed) (hunits rfl)
    | fill => rfl

/-! ## Names -/

theorem VariableId.map_number_map_mk (numbers : List UInt32) :
    (numbers.map mk).map number = numbers := by
  rw [List.map_map]
  exact List.map_id numbers

theorem VariableId.map_mk_map_number (ids : List VariableId) : (ids.map number).map mk = ids := by
  rw [List.map_map]
  exact List.map_id ids

theorem ActionId.map_number_map_mk (numbers : List UInt32) :
    (numbers.map mk).map number = numbers := by
  rw [List.map_map]
  exact List.map_id numbers

theorem ActionId.map_mk_map_number (ids : List ActionId) : (ids.map number).map mk = ids := by
  rw [List.map_map]
  exact List.map_id ids

/-! ## Colors -/

/-- The channels of a color are the digits of its word. -/
theorem Color.toNat_toWord (c : Color) :
    c.toWord.toNat =
      c.alpha.toNat * 0x1000000 + c.red.toNat * 0x10000 + c.green.toNat * 0x100 +
        c.blue.toNat := by
  have halpha := c.alpha.toNat_lt
  have hred := c.red.toNat_lt
  have hgreen := c.green.toNat_lt
  have hblue := c.blue.toNat_lt
  -- Each channel lies below the lowest bit of those before it, so that joining bits adds.
  have h₁ : (c.alpha.toNat <<< 8 ||| c.red.toNat) = c.alpha.toNat <<< 8 + c.red.toNat :=
    (Nat.shiftLeft_add_eq_or_of_lt hred _).symm
  have h₂ : ((c.alpha.toNat <<< 8 + c.red.toNat) <<< 8 ||| c.green.toNat) =
      (c.alpha.toNat <<< 8 + c.red.toNat) <<< 8 + c.green.toNat :=
    (Nat.shiftLeft_add_eq_or_of_lt hgreen _).symm
  have h₃ := (Nat.shiftLeft_add_eq_or_of_lt hblue
    ((c.alpha.toNat <<< 8 + c.red.toNat) <<< 8 + c.green.toNat)).symm
  have hword : c.toWord.toNat =
      ((c.alpha.toNat <<< 8 ||| c.red.toNat) <<< 8 ||| c.green.toNat) <<< 8 ||| c.blue.toNat := by
    have hsmall : c.alpha.toNat <<< 24 < 4294967296 ∧ c.red.toNat <<< 16 < 4294967296 ∧
        c.green.toNat <<< 8 < 4294967296 := by
      simp only [Nat.shiftLeft_eq]
      omega
    simp [toWord, Nat.shiftLeft_or_distrib, ← Nat.shiftLeft_add, Nat.mod_eq_of_lt hsmall.1,
      Nat.mod_eq_of_lt hsmall.2.1, Nat.mod_eq_of_lt hsmall.2.2]
  rw [hword, h₁, h₂, h₃]
  simp only [Nat.shiftLeft_eq]
  omega

theorem Color.toWord_ofWord (w : UInt32) : (ofWord w).toWord = w := by
  have hw := w.toNat_lt
  apply UInt32.toNat_inj.1
  simp [toNat_toWord, ofWord, Nat.shiftRight_eq_div_pow]
  omega

theorem Color.ofWord_toWord (c : Color) : ofWord c.toWord = c := by
  obtain ⟨red, green, blue, alpha⟩ := c
  have hword := toNat_toWord ⟨red, green, blue, alpha⟩
  have halpha := alpha.toNat_lt
  have hred := red.toNat_lt
  have hgreen := green.toNat_lt
  have hblue := blue.toNat_lt
  simp only [ofWord, Color.mk.injEq, ← UInt8.toNat_inj]
  simp only [UInt32.toNat_toUInt8, UInt32.toNat_shiftRight, hword, Nat.shiftRight_eq_div_pow]
  simp only [UInt32.reduceToNat, Nat.reduceMod, Nat.reducePow]
  omega

end Panel
