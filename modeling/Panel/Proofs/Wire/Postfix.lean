import Panel.Proofs.Wire.Expression
import Panel.Proofs.Wire.Forward

/-!
# Which runs of nodes are expressions

Whether a run of nodes is the postfix form of one tree can be told by counting the values that it
leaves on the stack: every operator must find its operands, and a single value must remain.  The
reader of expressions accepts exactly these runs.  It blames the first operator that lacks operands,
or the count in front of the run.
-/

namespace Panel

namespace Token

variable {t : Token} {ts front : List Token} {stack : List Expression}

/-- The number of operands of a node. -/
def arity : Token → Nat
  | binary _ => 2
  | unary _ => 1
  | _ => 0

/-- The number of values on the stack after a run of nodes. -/
def values (ts : List Token) : Nat := ts.foldl (fun values t => values - t.arity + 1) 0

/-- Every node finds its operands on the stack. -/
def Supplied (ts : List Token) : Prop :=
  ∀ front t back, ts = front ++ t :: back → t.arity ≤ values front

theorem values_concat (ts : List Token) (t : Token) :
    values (ts ++ [t]) = values ts - t.arity + 1 :=
  List.foldl_append ..

theorem supplied_nil : Supplied [] :=
  fun _ _ _ h => absurd h.symm (List.append_ne_nil_of_right_ne_nil _ (List.cons_ne_nil _ _))

theorem supplied_concat : Supplied (ts ++ [t]) ↔ Supplied ts ∧ t.arity ≤ values ts := by
  constructor
  · intro h
    refine ⟨fun front u back hsplit => ?_, h ts t [] rfl⟩
    apply h front u (back ++ [t])
    rw [hsplit, List.append_assoc, List.cons_append]
  · rintro ⟨hfront, hlast⟩ front u back hsplit
    rcases List.eq_nil_or_concat back with rfl | ⟨back, v, rfl⟩
    · obtain ⟨rfl, hsame⟩ := List.append_inj' hsplit rfl
      obtain rfl := List.singleton_inj.1 hsame
      exact hlast
    · rw [List.concat_eq_append, ← List.cons_append, ← List.append_assoc] at hsplit
      exact hfront front u back (List.append_inj' hsplit rfl).1

/-- A run that is not supplied has a first node without operands. -/
theorem exists_first_of_not_supplied (h : ¬Supplied ts) :
    ∃ front t back, ts = front ++ t :: back ∧ Supplied front ∧ values front < t.arity := by
  induction ts using List.reverseRecOn with
  | nil => exact absurd supplied_nil h
  | append_singleton ts t ih =>
      by_cases hts : Supplied ts
      · refine ⟨ts, t, [], rfl, hts, Nat.lt_of_not_le fun hle => ?_⟩
        exact h (supplied_concat.2 ⟨hts, hle⟩)
      · obtain ⟨front, u, back, rfl, hfront⟩ := ih hts
        exact ⟨front, u, back ++ [t], by rw [List.append_assoc, List.cons_append], hfront⟩

/-! ## Counting and building -/

theorem exists_push? (h : t.arity ≤ stack.length) :
    ∃ out, t.push? stack = some out ∧ out.length = stack.length - t.arity + 1 := by
  cases t with
  | int v => exact ⟨_, rfl, rfl⟩
  | float v => exact ⟨_, rfl, rfl⟩
  | reference id => exact ⟨_, rfl, rfl⟩
  | binary op =>
      obtain _ | ⟨rhs, _ | ⟨lhs, stack⟩⟩ := stack
      · exact absurd h (by simp [arity])
      · exact absurd h (by simp [arity])
      · exact ⟨_, rfl, rfl⟩
  | unary op =>
      obtain _ | ⟨operand, stack⟩ := stack
      · exact absurd h (by simp [arity])
      · exact ⟨_, rfl, rfl⟩

theorem push?_eq_none (h : stack.length < t.arity) : t.push? stack = none := by
  cases t with
  | binary op =>
      obtain _ | ⟨rhs, _ | ⟨lhs, stack⟩⟩ := stack
      · rfl
      · rfl
      · exact absurd h (by simp [arity])
  | unary op =>
      obtain _ | ⟨operand, stack⟩ := stack
      · rfl
      · exact absurd h (by simp [arity])
  | _ => exact absurd h (Nat.not_lt_zero _)

/-- A supplied run builds as many expressions as it leaves values. -/
theorem exists_foldlM_push? (h : Supplied ts) :
    ∃ stack, ts.foldlM (fun stack t => t.push? stack) [] = some stack ∧
      stack.length = values ts := by
  induction ts using List.reverseRecOn with
  | nil => exact ⟨[], rfl, rfl⟩
  | append_singleton ts t ih =>
      obtain ⟨hts, hlast⟩ := supplied_concat.1 h
      obtain ⟨stack, hrun, hlength⟩ := ih hts
      obtain ⟨out, hpush, hout⟩ := exists_push? (hlength ▸ hlast)
      refine ⟨out, ?_, by rw [values_concat, hout, hlength]⟩
      rw [List.foldlM_append, hrun]
      simpa using hpush

/-- The bytes of nodes in a row. -/
def spelling (ts : List Token) : List UInt8 := ts.flatMap fun t => t.encoding.bytes

theorem failure_encoding (t : Token) : t.encoding.failure = none := by
  cases t <;> rfl

theorem concat_encoding (ts : List Token) :
    Wire.Encoding.concat (ts.map encoding) = .ofBytes (spelling ts) := by
  induction ts with
  | nil => rfl
  | cons t ts ih =>
      have hfirst : t.encoding = .ofBytes t.encoding.bytes := by
        cases t <;> rfl
      rw [List.map_cons, Wire.Encoding.concat, ih, hfirst]
      rfl

end Token

namespace Wire.Read

open Token

variable {t : Token} {ts front : List Token} {stack out : List Expression} {count offset : Nat}
  {rest : List UInt8}

/-! ## Reading runs of nodes -/

theorem token_of_encoding (t : Token) (offset : Nat) (rest : List UInt8) :
    token ⟨offset, t.encoding.bytes ++ rest⟩ =
      .ok t ⟨offset + t.encoding.bytes.length, rest⟩ :=
  token_eq_ok.2 ⟨t.failure_encoding, rfl, rfl⟩

theorem tokens_cons (hpush : t.push? stack = some out) :
    tokens (count + 1) stack ⟨offset, t.encoding.bytes ++ rest⟩ =
      tokens count out ⟨offset + t.encoding.bytes.length, rest⟩ := by
  rw [tokens, Result.run_bind_of_ok (offset_eq_ok.2 ⟨rfl, rfl⟩),
    Result.run_bind_of_ok (token_of_encoding t offset rest), hpush]

theorem tokens_append (hrun : front.foldlM (fun stack t => t.push? stack) stack = some out) :
    tokens (front.length + count) stack ⟨offset, spelling front ++ rest⟩ =
      tokens count out ⟨offset + (spelling front).length, rest⟩ := by
  induction front generalizing stack offset with
  | nil =>
      cases hrun
      rw [List.length_nil, Nat.zero_add]
      rfl
  | cons t front ih =>
      rw [List.foldlM_cons] at hrun
      obtain ⟨next, hpush, hrun⟩ := Option.bind_eq_some_iff.1 hrun
      have hbytes : spelling (t :: front) = t.encoding.bytes ++ spelling front := rfl
      rw [hbytes, List.length_cons, Nat.succ_add_eq_add_succ, Nat.add_succ, List.append_assoc,
        tokens_cons hpush, ih hrun, List.length_append, Nat.add_assoc]

/-- A node without operands is blamed. -/
theorem tokens_eq_error (hshort : stack.length < t.arity) :
    tokens (count + 1) stack ⟨offset, t.encoding.bytes ++ rest⟩ =
      .error (.malformedExpression offset) ⟨offset + t.encoding.bytes.length, rest⟩ := by
  rw [tokens, Result.run_bind_of_ok (offset_eq_ok.2 ⟨rfl, rfl⟩),
    Result.run_bind_of_ok (token_of_encoding t offset rest), push?_eq_none hshort]
  rfl

/-! ## Reading expressions -/

theorem word16_of_lt (hlt : count < UInt16.size) :
    word16 ⟨offset, toBytes 2 count ++ rest⟩ = .ok (.ofNat count) ⟨offset + 2, rest⟩ := by
  rw [word16_eq_ok]
  have htoNat : (UInt16.ofNat count).toNat = count := UInt16.toNat_ofNat_of_lt hlt
  refine ⟨rfl, ?_, ?_⟩
  · simp [Encoding.word16, Encoding.ofBytes, htoNat]
  · simp [Encoding.word16, Encoding.ofBytes]

/-- Whether a count of nodes is one that an expression may have. -/
theorem count_refused_iff (hlt : count < UInt16.size) :
    (decide (UInt16.ofNat count = 0) || decide (maxTokens < (UInt16.ofNat count).toNat)) = true ↔
      ¬(1 ≤ count ∧ count ≤ maxTokens) := by
  have htoNat : (UInt16.ofNat count).toNat = count := UInt16.toNat_ofNat_of_lt hlt
  rw [Bool.or_eq_true, decide_eq_true_eq, decide_eq_true_eq, ← UInt16.toNat_inj, htoNat,
    UInt16.toNat_zero]
  omega

theorem expression_of_refused (hlt : count < UInt16.size)
    (hcount : ¬(1 ≤ count ∧ count ≤ maxTokens)) :
    expression ⟨offset, toBytes 2 count ++ rest⟩ =
      .error (.malformedExpression offset) ⟨offset + 2, rest⟩ := by
  rw [expression, Result.run_bind_of_ok (offset_eq_ok.2 ⟨rfl, rfl⟩),
    Result.run_bind_of_ok (word16_of_lt hlt), if_pos ((count_refused_iff hlt).2 hcount)]
  rfl

section

variable (hlt : count < UInt16.size) (hcount : 1 ≤ count ∧ count ≤ maxTokens) {r' : Reader}

include hlt hcount

theorem expression_of_tokens_error {error : DecodeError}
    (htokens : tokens count [] ⟨offset + 2, rest⟩ = .error error r') :
    expression ⟨offset, toBytes 2 count ++ rest⟩ = .error error r' := by
  have htoNat : (UInt16.ofNat count).toNat = count := UInt16.toNat_ofNat_of_lt hlt
  rw [expression, Result.run_bind_of_ok (offset_eq_ok.2 ⟨rfl, rfl⟩),
    Result.run_bind_of_ok (word16_of_lt hlt),
    if_neg fun h => (count_refused_iff hlt).1 h hcount, htoNat]
  exact Result.run_bind_of_error htokens

theorem expression_of_tokens_ok (htokens : tokens count [] ⟨offset + 2, rest⟩ = .ok stack r') :
    (∀ e, stack = [e] → expression ⟨offset, toBytes 2 count ++ rest⟩ = .ok e r') ∧
    (stack.length ≠ 1 → expression ⟨offset, toBytes 2 count ++ rest⟩ =
      .error (.malformedExpression offset) r') := by
  have htoNat : (UInt16.ofNat count).toNat = count := UInt16.toNat_ofNat_of_lt hlt
  rw [expression, Result.run_bind_of_ok (offset_eq_ok.2 ⟨rfl, rfl⟩),
    Result.run_bind_of_ok (word16_of_lt hlt),
    if_neg fun h => (count_refused_iff hlt).1 h hcount, htoNat]
  constructor
  · rintro e rfl
    exact Result.run_bind_of_ok htokens
  · intro hmany
    refine (Result.run_bind_of_ok htokens).trans ?_
    rcases stack with _ | ⟨e, _ | ⟨other, stack⟩⟩
    · rfl
    · exact absurd rfl hmany
    · rfl

end

/-- A run that is not supplied is blamed on its first node without operands. -/
theorem expression_of_not_supplied (hlt : ts.length < UInt16.size)
    (hcount : 1 ≤ ts.length ∧ ts.length ≤ maxTokens) (h : ¬Supplied ts) :
    ∃ front t back, ts = front ++ t :: back ∧ Supplied front ∧ values front < t.arity ∧
      ∃ r', expression ⟨offset, toBytes 2 ts.length ++ (spelling ts ++ rest)⟩ =
        .error (.malformedExpression (offset + 2 + (spelling front).length)) r' := by
  obtain ⟨front, t, back, rfl, hfront, hshort⟩ := exists_first_of_not_supplied h
  obtain ⟨stack, hrun, hlength⟩ := exists_foldlM_push? hfront
  refine ⟨front, t, back, rfl, hfront, hshort,
    ⟨offset + 2 + (spelling front).length + t.encoding.bytes.length, spelling back ++ rest⟩, ?_⟩
  have hspelling : spelling (front ++ t :: back) ++ rest =
      spelling front ++ (t.encoding.bytes ++ (spelling back ++ rest)) := by
    simp [spelling]
  apply expression_of_tokens_error hlt hcount
  rw [hspelling, List.length_append, List.length_cons, tokens_append hrun]
  exact tokens_eq_error (hlength ▸ hshort)

/-- A supplied run is one expression if it leaves one value, and is blamed on its count if not. -/
theorem expression_of_supplied (hlt : ts.length < UInt16.size)
    (hcount : 1 ≤ ts.length ∧ ts.length ≤ maxTokens) (h : Supplied ts) :
    let r' : Reader := ⟨offset + 2 + (spelling ts).length, rest⟩
    (values ts = 1 → ∃ e : Expression, e.tokens = ts ∧
      expression ⟨offset, toBytes 2 ts.length ++ (spelling ts ++ rest)⟩ = .ok e r') ∧
    (values ts ≠ 1 →
      expression ⟨offset, toBytes 2 ts.length ++ (spelling ts ++ rest)⟩ =
        .error (.malformedExpression offset) r') := by
  obtain ⟨stack, hrun, hlength⟩ := exists_foldlM_push? h
  have htokens : tokens ts.length [] ⟨offset + 2, spelling ts ++ rest⟩ =
      .ok stack ⟨offset + 2 + (spelling ts).length, rest⟩ := by
    rw [← Nat.add_zero ts.length, tokens_append hrun]
    rfl
  obtain ⟨hone, hmany⟩ := expression_of_tokens_ok hlt hcount htokens
  rw [← hlength]
  refine ⟨fun hsingle => ?_, hmany⟩
  obtain ⟨e, rfl⟩ := List.length_eq_one_iff.1 hsingle
  exact ⟨e, (Expression.foldlM_eq_singleton_iff.1 hrun).symm, hone e rfl⟩

/-- What is written for a tree whose nodes in postfix order are few enough. -/
theorem toExcept_encoding {e : Expression} (he : e.tokens = ts) (hmax : ts.length ≤ maxTokens) :
    e.encoding.toExcept = .ok (toBytes 2 ts.length ++ spelling ts) := by
  have hnodes : e.nodeCount = ts.length := by rw [← e.length_tokens, he]
  have hlt : ts.length < UInt16.size := Nat.lt_of_le_of_lt hmax (by decide)
  have htoNat : (UInt16.ofNat ts.length).toNat = ts.length := UInt16.toNat_ofNat_of_lt hlt
  rw [Expression.encoding, hnodes, if_pos hmax, he, concat_encoding, Encoding.word16, htoNat]
  rfl

/-- A tree is read back from the bytes that are written for it. -/
theorem expression_of_toExcept {e : Expression} {written : List UInt8}
    (h : e.encoding.toExcept = .ok written) :
    expression ⟨offset, written ++ rest⟩ = .ok e ⟨offset + written.length, rest⟩ := by
  rw [Encoding.toExcept] at h
  cases hfailure : e.encoding.failure with
  | some error => simp [hfailure] at h
  | none =>
      obtain rfl : e.encoding.bytes = written := by simpa [hfailure] using h
      exact expression_eq_ok.2 ⟨hfailure, rfl, rfl⟩

/-- **The reader of expressions accepts exactly single trees in postfix order.**  Nodes in a row
stand behind their count, which has two bytes.  They are read as an expression exactly if the count
is within bounds, every operator finds its operands and one value remains; the reader then stands
behind them, and the expression is the only one that is written so.  Otherwise a count out of bounds
or a wrong number of values is blamed on the count, and a lack of operands on the first node that
lacks them. -/
theorem expression_postfix (ts : List Token) (hlt : ts.length < UInt16.size) (offset : Nat)
    (rest : List UInt8) :
    let written := toBytes 2 ts.length ++ spelling ts
    let r : Reader := ⟨offset, written ++ rest⟩
    let counted := 1 ≤ ts.length ∧ ts.length ≤ maxTokens
    ((∃ e r', expression r = .ok e r') ↔ counted ∧ Supplied ts ∧ values ts = 1) ∧
    (∀ e r', expression r = .ok e r' → r' = ⟨offset + written.length, rest⟩ ∧
      ∀ other : Expression, other.encoding.toExcept = .ok written ↔ other = e) ∧
    (counted → ¬Supplied ts → ∃ front t back, ts = front ++ t :: back ∧ Supplied front ∧
      values front < t.arity ∧
      ∃ r', expression r =
        .error (.malformedExpression (offset + 2 + (spelling front).length)) r') ∧
    (¬counted ∨ Supplied ts ∧ values ts ≠ 1 →
      ∃ r', expression r = .error (.malformedExpression offset) r') := by
  intro written r counted
  have hwritten : written = toBytes 2 ts.length ++ spelling ts := rfl
  have hstart : r = ⟨offset, written ++ rest⟩ := rfl
  clear_value r written
  have hr : r = ⟨offset, toBytes 2 ts.length ++ (spelling ts ++ rest)⟩ := by
    rw [hstart, hwritten, List.append_assoc]
  have hend : offset + 2 + (spelling ts).length = offset + written.length := by
    rw [hwritten, List.length_append, length_toBytes, Nat.add_assoc]
  have hone (hcounted : counted) (hsupplied : Supplied ts) (hvalues : values ts = 1) :
      ∃ e : Expression, e.tokens = ts ∧ expression r = .ok e ⟨offset + written.length, rest⟩ := by
    rw [hr, ← hend]
    exact (expression_of_supplied hlt hcounted hsupplied).1 hvalues
  have hunsupplied (hcounted : counted) (hlacking : ¬Supplied ts) :
      ∃ front t back, ts = front ++ t :: back ∧ Supplied front ∧ values front < t.arity ∧
        ∃ r', expression r =
          .error (.malformedExpression (offset + 2 + (spelling front).length)) r' := by
    rw [hr]
    exact expression_of_not_supplied hlt hcounted hlacking
  have hwhole (hbad : ¬counted ∨ Supplied ts ∧ values ts ≠ 1) :
      ∃ r', expression r = .error (.malformedExpression offset) r' := by
    rw [hr]
    by_cases hcounted : counted
    · obtain ⟨hsupplied, hvalues⟩ := hbad.resolve_left (not_not_intro hcounted)
      exact ⟨_, (expression_of_supplied hlt hcounted hsupplied).2 hvalues⟩
    · exact ⟨_, expression_of_refused hlt hcounted⟩
  have haccepted {e : Expression} {r' : Reader} (h : expression r = .ok e r') :
      counted ∧ Supplied ts ∧ values ts = 1 := by
    by_contra hrefused
    have hsound (hbad : ¬counted ∨ Supplied ts ∧ values ts ≠ 1) : False := by
      obtain ⟨_, herror⟩ := hwhole hbad
      exact nomatch herror.symm.trans h
    have hcounted : counted := by_contra fun hcounted => hsound (.inl hcounted)
    by_cases hsupplied : Supplied ts
    · exact hsound (.inr ⟨hsupplied, fun hvalues => hrefused ⟨hcounted, hsupplied, hvalues⟩⟩)
    · obtain ⟨_, _, _, -, -, -, _, herror⟩ := hunsupplied hcounted hsupplied
      exact nomatch herror.symm.trans h
  refine ⟨⟨fun ⟨e, r', h⟩ => haccepted h, fun ⟨hcounted, hsupplied, hvalues⟩ => ?_⟩,
    fun e r' h => ?_, hunsupplied, hwhole⟩
  · obtain ⟨e, -, h⟩ := hone hcounted hsupplied hvalues
    exact ⟨e, _, h⟩
  · obtain ⟨hcounted, hsupplied, hvalues⟩ := haccepted h
    obtain ⟨found, htokens, hfound⟩ := hone hcounted hsupplied hvalues
    obtain ⟨rfl, rfl⟩ := EStateM.Result.ok.inj (hfound.symm.trans h)
    refine ⟨rfl, fun other => ⟨fun hother => ?_, ?_⟩⟩
    · rw [hstart, expression_of_toExcept hother] at h
      exact (EStateM.Result.ok.inj h).1
    · rintro rfl
      rw [hwritten]
      exact toExcept_encoding htokens hcounted.2

/-- Seven less the negation of a variable. -/
theorem expression_postfix_sub :
    let ts : List Token := [.int 7, .reference ⟨1⟩, .unary .neg, .binary .sub]
    let e : Expression := .binary .sub (.constant (.int 7)) (.unary .neg (.reference ⟨1⟩))
    ts.length < UInt16.size ∧
      expression ⟨3, toBytes 2 ts.length ++ spelling ts ++ [9]⟩ = .ok e ⟨19, [9]⟩ ∧
      Supplied ts ∧ values ts = 1 ∧
      ∀ other : Expression,
        other.encoding.toExcept = .ok (toBytes 2 ts.length ++ spelling ts) ↔ other = e := by
  intro ts e
  have hlt : ts.length < UInt16.size := by decide
  have hread : expression ⟨3, toBytes 2 ts.length ++ spelling ts ++ [9]⟩ = .ok e ⟨19, [9]⟩ := by
    have hwritten : e.encoding.toExcept = .ok (toBytes 2 ts.length ++ spelling ts) := by
      decide +kernel
    exact expression_of_toExcept hwritten
  obtain ⟨hiff, hunique, -⟩ := expression_postfix ts hlt 3 [9]
  obtain ⟨-, hsupplied, hvalues⟩ := hiff.1 ⟨e, _, hread⟩
  exact ⟨hlt, hread, hsupplied, hvalues, (hunique e _ hread).2⟩

end Wire.Read

end Panel
