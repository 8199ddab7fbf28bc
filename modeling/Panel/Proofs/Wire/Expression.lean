import Panel.Proofs.Wire.Code
import Panel.Proofs.Wire.Field

/-!
# Expressions as bytes

The postfix form is unique: a list of nodes that leaves the single tree `e` on the stack is the
postfix form of `e`.  With the law of one node, the reader of expressions accepts exactly what is
written for some expression.
-/

namespace Panel

/-! ## Postfix form -/

/-- A node that finds its operands appends itself to the postfix form of the stack. -/
theorem Token.flatMap_tokens_of_push? {t : Token} {stack out : List Expression}
    (h : t.push? stack = some out) :
    out.reverse.flatMap Expression.tokens = stack.reverse.flatMap Expression.tokens ++ [t] := by
  unfold push? at h
  split at h <;> cases h <;> simp [Expression.tokens]

/-- A run over nodes appends them to the postfix form of the stack. -/
theorem Expression.flatMap_tokens_of_foldlM {ts : List Token} {stack out : List Expression}
    (h : ts.foldlM (fun stack t => t.push? stack) stack = some out) :
    out.reverse.flatMap tokens = stack.reverse.flatMap tokens ++ ts := by
  induction ts generalizing stack with
  | nil =>
      cases h
      rw [List.append_nil]
  | cons t ts ih =>
      rw [List.foldlM_cons] at h
      obtain ⟨next, hnext, hrest⟩ := Option.bind_eq_some_iff.1 h
      rw [ih hrest, Token.flatMap_tokens_of_push? hnext, List.append_assoc, List.singleton_append]

theorem Expression.foldlM_eq_singleton_iff {ts : List Token} {e : Expression} :
    ts.foldlM (fun stack t => t.push? stack) [] = some [e] ↔ ts = e.tokens := by
  constructor
  · intro h
    have hpostfix := flatMap_tokens_of_foldlM h
    simpa using hpostfix.symm
  · rintro rfl
    exact foldlM_tokens e []

theorem Expression.nodeCount_pos (e : Expression) : 0 < e.nodeCount := by
  cases e <;> simp only [nodeCount] <;> omega

namespace Wire.Read

variable {r r' : Reader}

/-! ## Nodes -/

theorem token_eq_ok {t : Token} : token r = .ok t r' ↔ r.Holds t.encoding r' := by
  simp only [token, bind_eq_ok, offset_eq_ok, byte_eq_ok]
  constructor
  · rintro ⟨_, _, ⟨rfl, rfl⟩, kind, r₁, hkind, h⟩
    split at h
    · simp only [bind_eq_ok, int32_eq_ok, pure_eq_ok] at h
      obtain ⟨value, _, hvalue, rfl, rfl⟩ := h
      exact Reader.holds_append.2 ⟨r₁, hkind, hvalue⟩
    · simp only [bind_eq_ok, single_eq_ok, pure_eq_ok] at h
      obtain ⟨value, _, hvalue, rfl, rfl⟩ := h
      exact Reader.holds_append.2 ⟨r₁, hkind, hvalue⟩
    · simp only [bind_eq_ok, variableId_eq_ok, pure_eq_ok] at h
      obtain ⟨id, _, hid, rfl, rfl⟩ := h
      exact Reader.holds_append.2 ⟨r₁, hkind, hid⟩
    · simp only [bind_eq_ok, byte_eq_ok] at h
      obtain ⟨code, r₂, hcode, h⟩ := h
      cases hop : BinaryOp.ofCode? code with
      | some op =>
        rw [hop] at h
        obtain ⟨rfl, rfl⟩ := pure_eq_ok.1 h
        obtain rfl := BinaryOp.ofCode?_eq_some_iff.1 hop
        exact Reader.holds_append.2 ⟨r₁, hkind, hcode⟩
      | none =>
        rw [hop] at h
        exact absurd h throw_ne_ok
    · simp only [bind_eq_ok, byte_eq_ok] at h
      obtain ⟨code, r₂, hcode, h⟩ := h
      cases hop : UnaryOp.ofCode? code with
      | some op =>
        rw [hop] at h
        obtain ⟨rfl, rfl⟩ := pure_eq_ok.1 h
        obtain rfl := UnaryOp.ofCode?_eq_some_iff.1 hop
        exact Reader.holds_append.2 ⟨r₁, hkind, hcode⟩
      | none =>
        rw [hop] at h
        exact absurd h throw_ne_ok
    · exact absurd h throw_ne_ok
  · intro h
    cases t with
    | int value =>
      obtain ⟨r₁, hkind, hvalue⟩ := Reader.holds_append.1 h
      refine ⟨_, _, ⟨rfl, rfl⟩, _, _, hkind, ?_⟩
      exact bind_eq_ok.2 ⟨_, _, int32_eq_ok.2 hvalue, pure_eq_ok.2 ⟨rfl, rfl⟩⟩
    | float value =>
      obtain ⟨r₁, hkind, hvalue⟩ := Reader.holds_append.1 h
      refine ⟨_, _, ⟨rfl, rfl⟩, _, _, hkind, ?_⟩
      exact bind_eq_ok.2 ⟨_, _, single_eq_ok.2 hvalue, pure_eq_ok.2 ⟨rfl, rfl⟩⟩
    | reference id =>
      obtain ⟨r₁, hkind, hid⟩ := Reader.holds_append.1 h
      refine ⟨_, _, ⟨rfl, rfl⟩, _, _, hkind, ?_⟩
      exact bind_eq_ok.2 ⟨_, _, variableId_eq_ok.2 hid, pure_eq_ok.2 ⟨rfl, rfl⟩⟩
    | binary op =>
      obtain ⟨r₁, hkind, hcode⟩ := Reader.holds_append.1 h
      refine ⟨_, _, ⟨rfl, rfl⟩, _, _, hkind, ?_⟩
      refine bind_eq_ok.2 ⟨_, _, byte_eq_ok.2 hcode, ?_⟩
      rw [BinaryOp.ofCode?_code]
      exact pure_eq_ok.2 ⟨rfl, rfl⟩
    | unary op =>
      obtain ⟨r₁, hkind, hcode⟩ := Reader.holds_append.1 h
      refine ⟨_, _, ⟨rfl, rfl⟩, _, _, hkind, ?_⟩
      refine bind_eq_ok.2 ⟨_, _, byte_eq_ok.2 hcode, ?_⟩
      rw [UnaryOp.ofCode?_code]
      exact pure_eq_ok.2 ⟨rfl, rfl⟩

/-! ## Runs of nodes -/

theorem tokens_eq_ok {count : Nat} {stack out : List Expression} :
    tokens count stack r = .ok out r' ↔
      ∃ ts : List Token, ts.length = count ∧
        ts.foldlM (fun stack t => t.push? stack) stack = some out ∧
        r.Holds (.concat (ts.map Token.encoding)) r' := by
  induction count generalizing stack r with
  | zero =>
      simp only [tokens, pure_eq_ok, List.length_eq_zero_iff]
      constructor
      · rintro ⟨rfl, rfl⟩
        exact ⟨[], rfl, rfl, Reader.holds_empty.2 rfl⟩
      · rintro ⟨_, rfl, hrun, hholds⟩
        cases hrun
        exact ⟨rfl, (Reader.holds_empty.1 hholds).symm⟩
  | succ count ih =>
      simp only [tokens, bind_eq_ok, offset_eq_ok, token_eq_ok]
      constructor
      · rintro ⟨_, _, ⟨rfl, rfl⟩, t, r₁, ht, h⟩
        cases hpush : t.push? stack with
        | some next =>
          rw [hpush] at h
          obtain ⟨ts, hlength, hrun, hholds⟩ := ih.1 h
          refine ⟨t :: ts, by rw [List.length_cons, hlength], ?_,
            Reader.holds_append.2 ⟨r₁, ht, hholds⟩⟩
          rw [List.foldlM_cons, hpush]
          exact hrun
        | none =>
          rw [hpush] at h
          exact absurd h throw_ne_ok
      · rintro ⟨_ | ⟨t, ts⟩, hlength, hrun, hholds⟩
        · cases hlength
        · obtain ⟨r₁, ht, hts⟩ := Reader.holds_append.1 hholds
          rw [List.foldlM_cons] at hrun
          obtain ⟨next, hpush, hrun⟩ := Option.bind_eq_some_iff.1 hrun
          refine ⟨_, _, ⟨rfl, rfl⟩, t, r₁, ht, ?_⟩
          rw [hpush]
          exact ih.2 ⟨ts, Nat.succ_inj.1 hlength, hrun, hts⟩

/-- An expression is read from exactly the bytes that are written for it. -/
theorem expression_eq_ok {e : Expression} : expression r = .ok e r' ↔ r.Holds e.encoding r' := by
  simp only [expression, bind_eq_ok, offset_eq_ok, word16_eq_ok]
  constructor
  · rintro ⟨_, _, ⟨rfl, rfl⟩, count, r₁, hcount, h⟩
    split at h
    · exact absurd h throw_ne_ok
    · rename_i hrange
      obtain ⟨stack, r₂, hstack, h⟩ := bind_eq_ok.1 h
      split at h
      · obtain ⟨rfl, rfl⟩ := pure_eq_ok.1 h
        obtain ⟨ts, hlength, hrun, htokens⟩ := tokens_eq_ok.1 hstack
        obtain rfl := Expression.foldlM_eq_singleton_iff.1 hrun
        rw [Expression.length_tokens] at hlength
        have hmax : count.toNat ≤ maxTokens := by
          simp only [Bool.or_eq_true, decide_eq_true_eq, not_or] at hrange
          omega
        rw [Expression.encoding, hlength, if_pos hmax, UInt16.ofNat_toNat]
        exact Reader.holds_append.2 ⟨r₁, hcount, htokens⟩
      · exact absurd h throw_ne_ok
  · intro h
    rw [Expression.encoding] at h
    split at h
    · rename_i hmax
      obtain ⟨r₁, hcount, htokens⟩ := Reader.holds_append.1 h
      have hpos := e.nodeCount_pos
      have hlt : e.nodeCount < UInt16.size := Nat.lt_of_le_of_lt hmax (by decide)
      have htoNat : (UInt16.ofNat e.nodeCount).toNat = e.nodeCount :=
        UInt16.toNat_ofNat_of_lt hlt
      have hrange : ¬(decide (UInt16.ofNat e.nodeCount = 0) ||
          decide (maxTokens < (UInt16.ofNat e.nodeCount).toNat)) = true := by
        simp only [Bool.or_eq_true, decide_eq_true_eq, ← UInt16.toNat_inj, htoNat,
          UInt16.toNat_zero]
        omega
      refine ⟨_, _, ⟨rfl, rfl⟩, _, _, hcount, ?_⟩
      rw [if_neg hrange, htoNat]
      refine bind_eq_ok.2 ⟨[e], r', tokens_eq_ok.2 ⟨e.tokens, e.length_tokens, ?_, htokens⟩, ?_⟩
      · exact Expression.foldlM_eq_singleton_iff.2 rfl
      · exact pure_eq_ok.2 ⟨rfl, rfl⟩
    · cases h.written

end Wire.Read

end Panel
