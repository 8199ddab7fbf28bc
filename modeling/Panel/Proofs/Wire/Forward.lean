import Panel.Proofs.Result
import Panel.Proofs.Wire.Field
import Panel.Wire.Operation

/-!
# Reading forward

A reader goes over the bytes from front to back and looks at none that it does not take.  So what
it has made of some bytes does not change when more of them arrive, be it a value or a failure that
blames the bytes.  And where it would have taken some bytes, it runs out if it gets only a front
part of them: it then asks for no more than the rest of them.

* `Takes` says which bytes a read takes at a place, `RunsOut` how it fails for want of bytes;
* `Forward` says that a read goes forward in this sense.  Reads made of such reads are such reads,
  so that the reader of operations is one.
-/

namespace Panel

/-- Whether a failure is about a buffer that ends too early. -/
def DecodeError.isTruncated : DecodeError → Bool
  | truncated .. => true
  | _ => false

namespace Wire.Read

variable {α β : Type} {m : Read α} {f : α → Read β} {a : α} {b : β} {r r' : Reader}
  {e : DecodeError} {start missing : Nat} {bytes used : List UInt8}

/-! ## What is taken -/

/-- The read fails for want of bytes, which it looked for in the buffer and up to its end.  It asks
for one byte at least, and for no more than are missing. -/
def RunsOut (m : Read α) (r : Reader) (missing : Nat) : Prop :=
  ∃ offset needed r', m r = .error (.truncated offset needed) r' ∧
    offset ≤ r.offset + r.rest.length ∧ 0 < needed ∧ needed ≤ missing

/-- At an offset the read takes the bytes `used` for the value `a`, whatever follows them.  It runs
out in the middle of them if the buffer ends there. -/
structure Takes (m : Read α) (start : Nat) (used : List UInt8) (a : α) : Prop where
  whole : ∀ rest, m ⟨start, used ++ rest⟩ = .ok a ⟨start + used.length, rest⟩
  cut : ∀ front back, used = front ++ back → back ≠ [] → m.RunsOut ⟨start, front⟩ back.length

/-- The read takes bytes from the front, and bytes behind those that it has looked at do not
matter. -/
structure Forward (m : Read α) : Prop where
  takes : ∀ {r r' : Reader} {a : α}, m r = .ok a r' →
    ∃ used, r.rest = used ++ r'.rest ∧ m.Takes r.offset used a
  error : ∀ {start : Nat} {bytes : List UInt8} {e : DecodeError} {r' : Reader},
    m ⟨start, bytes⟩ = .error e r' → e.isTruncated = false →
      ∀ more, ∃ r'', m ⟨start, bytes ++ more⟩ = .error e r''

theorem RunsOut.mono {n : Nat} (h : m.RunsOut r missing) (hle : missing ≤ n) : m.RunsOut r n := by
  obtain ⟨offset, needed, r', hrun, hoffset, hpos, hneeded⟩ := h
  exact ⟨offset, needed, r', hrun, hoffset, hpos, Nat.le_trans hneeded hle⟩

theorem takes_nil (h : ∀ rest, m ⟨start, rest⟩ = .ok a ⟨start, rest⟩) : m.Takes start [] a where
  whole := h
  cut := by
    intro front back hused hback
    exact absurd (List.append_eq_nil_iff.1 hused.symm).2 hback

theorem Takes.reader_eq (h : m.Takes r.offset used a) (hrest : r.rest = used ++ r'.rest)
    (hm : m r = .ok a r') : r' = ⟨r.offset + used.length, r'.rest⟩ := by
  have hwhole := h.whole r'.rest
  rw [← hrest] at hwhole
  exact (EStateM.Result.ok.inj (hm.symm.trans hwhole)).2

/-- More bytes do not change what has been read. -/
theorem Forward.append (h : Forward m) (hm : m ⟨start, bytes⟩ = .ok a r') (more : List UInt8) :
    m ⟨start, bytes ++ more⟩ = .ok a ⟨r'.offset, r'.rest ++ more⟩ := by
  obtain ⟨used, hrest, htakes⟩ := h.takes hm
  have hreader := htakes.reader_eq hrest hm
  dsimp only at hrest htakes hreader
  rw [hrest, List.append_assoc, htakes.whole, hreader]

/-! ## Steps -/

theorem bind_eq_error : (m >>= f) r = .error e r' ↔
    m r = .error e r' ∨ ∃ a r₁, m r = .ok a r₁ ∧ f a r₁ = .error e r' := by
  change EStateM.bind m f r = .error e r' ↔ _
  unfold EStateM.bind
  cases hm : m r with
  | error error r₁ => simp
  | ok a r₁ =>
      constructor
      · intro hf
        exact .inr ⟨a, r₁, rfl, hf⟩
      · rintro (hm | ⟨_, _, ⟨⟩, hf⟩)
        · contradiction
        · exact hf

theorem RunsOut.bind (h : m.RunsOut r missing) (f : α → Read β) : (m >>= f).RunsOut r missing := by
  obtain ⟨offset, needed, r', hrun, hbounds⟩ := h
  exact ⟨offset, needed, r', Result.run_bind_of_error hrun, hbounds⟩

theorem Takes.runsOut_bind {rest : List UInt8} (hm : m.Takes start used a)
    (hf : (f a).RunsOut ⟨start + used.length, rest⟩ missing) :
    (m >>= f).RunsOut ⟨start, used ++ rest⟩ missing := by
  obtain ⟨offset, needed, r', hrun, hoffset, hbounds⟩ := hf
  refine ⟨offset, needed, r', (Result.run_bind_of_ok (hm.whole rest)).trans hrun, ?_, hbounds⟩
  rw [List.length_append, ← Nat.add_assoc]
  exact hoffset

/-- The bytes of two reads stand one behind the other.  A buffer that ends within them ends within
those of the first or has all of those. -/
theorem Takes.bind {more : List UInt8} (hm : m.Takes start used a)
    (hf : (f a).Takes (start + used.length) more b) : (m >>= f).Takes start (used ++ more) b where
  whole := by
    intro rest
    rw [List.append_assoc, Result.run_bind_of_ok (hm.whole _), hf.whole, List.length_append,
      Nat.add_assoc]
  cut := by
    intro front back hsplit hback
    rcases List.append_eq_append_iff.1 hsplit with ⟨c, rfl, hmore⟩ | ⟨c, hused, rfl⟩
    · exact hm.runsOut_bind (hf.cut c back hmore hback)
    · by_cases hc : c = []
      · subst hc
        rw [List.append_nil] at hused
        have hfirst := hf.cut [] more rfl hback
        rw [← hused, ← List.append_nil used]
        exact hm.runsOut_bind hfirst
      · apply ((hm.cut front c hused hc).bind f).mono
        rw [List.length_append]
        exact Nat.le_add_right _ _

theorem Forward.bind (hm : Forward m) (hf : ∀ a, Forward (f a)) : Forward (m >>= f) where
  takes := by
    intro r r' b h
    obtain ⟨a, r₁, ha, hb⟩ := bind_eq_ok.1 h
    obtain ⟨used, hused, htakes⟩ := hm.takes ha
    obtain ⟨more, hmore, htakes'⟩ := (hf a).takes hb
    rw [htakes.reader_eq hused ha] at htakes'
    refine ⟨used ++ more, ?_, htakes.bind htakes'⟩
    rw [hused, hmore, List.append_assoc]
  error := by
    intro start bytes e r' h he more
    rcases bind_eq_error.1 h with h | ⟨a, r₁, ha, h⟩
    · obtain ⟨r'', hrun⟩ := hm.error h he more
      exact ⟨r'', Result.run_bind_of_error hrun⟩
    · obtain ⟨r'', hrun⟩ := (hf a).error h he more
      exact ⟨r'', (Result.run_bind_of_ok (hm.append ha more)).trans hrun⟩

theorem forward_pure (a : α) : Forward (pure a : Read α) where
  takes := by
    intro r r' a' h
    obtain ⟨rfl, rfl⟩ := pure_eq_ok.1 h
    exact ⟨[], rfl, takes_nil fun _ => rfl⟩
  error := nofun

theorem forward_throw (e : DecodeError) : Forward (throw e : Read α) where
  takes := nofun
  error := by
    rintro start bytes _ r' ⟨⟩ - more
    exact ⟨_, rfl⟩

theorem forward_offset : Forward offset where
  takes := by
    intro r r' a h
    obtain ⟨rfl, rfl⟩ := offset_eq_ok.1 h
    exact ⟨[], rfl, takes_nil fun _ => rfl⟩
  error := nofun

/-! ## Numbers -/

theorem bytes_of_le {count : Nat} {front : List UInt8} (hlength : front.length = count)
    (rest : List UInt8) :
    Read.bytes count ⟨start, front ++ rest⟩ = .ok front ⟨start + count, rest⟩ :=
  bytes_eq_ok.2 ⟨hlength, rfl, rfl, congrArg _ hlength.symm⟩

theorem bytes_of_lt {count : Nat} (h : r.rest.length < count) :
    Read.bytes count r = .error (.truncated r.offset (count - r.rest.length)) r := by
  have htake : (r.rest.take count) = r.rest := List.take_of_length_le (Nat.le_of_lt h)
  unfold Read.bytes
  rw [htake, if_pos h]

theorem forward_bytes (count : Nat) : Forward (Read.bytes count) where
  takes := by
    intro r r' front h
    obtain ⟨hlength, -, hrest, -⟩ := bytes_eq_ok.1 h
    refine ⟨front, hrest, fun rest => ?_, ?_⟩
    · rw [bytes_of_le hlength, hlength]
    · rintro cut back rfl hback
      have hpos := List.length_pos_iff.2 hback
      rw [List.length_append] at hlength
      refine ⟨_, _, _, bytes_of_lt (by dsimp only; omega), ?_, ?_, ?_⟩
      · exact Nat.le_add_right _ _
      · dsimp only
        omega
      · dsimp only
        omega
  error := by
    intro start bytes e r' h _
    unfold Read.bytes at h
    dsimp only at h
    split at h
    · cases h
      contradiction
    · contradiction

theorem forward_byte : Forward byte := (forward_bytes 1).bind fun _ => forward_pure _

theorem forward_word16 : Forward word16 := (forward_bytes 2).bind fun _ => forward_pure _

theorem forward_word32 : Forward word32 := (forward_bytes 4).bind fun _ => forward_pure _

theorem forward_int32 : Forward int32 := forward_word32.bind fun _ => forward_pure _

theorem forward_single : Forward single := forward_word32.bind fun _ => forward_pure _

theorem forward_variableId : Forward variableId := forward_word32.bind fun _ => forward_pure _

theorem forward_componentId : Forward componentId := forward_word32.bind fun _ => forward_pure _

theorem forward_actionId : Forward actionId := forward_word32.bind fun _ => forward_pure _

/-! ## Fields with a length -/

/-- Going back to where a field began changes nothing but the place that is left behind. -/
theorem Forward.resuming (h : Forward m) : Forward (resuming m) where
  takes := by
    intro r r' a hm
    obtain ⟨used, hrest, htakes⟩ := h.takes (resuming_eq_ok.1 hm)
    refine ⟨used, hrest, fun rest => resuming_eq_ok.2 (htakes.whole rest), ?_⟩
    intro front back hsplit hback
    obtain ⟨offset, needed, r'', hrun, hbounds⟩ := htakes.cut front back hsplit hback
    refine ⟨offset, needed, ⟨r.offset, front⟩, ?_, hbounds⟩
    rw [Read.resuming, hrun]
  error := by
    intro start bytes e r' hm he more
    have hread : m ⟨start, bytes⟩ = .error e r' := by
      unfold Read.resuming at hm
      split at hm
      · cases hm
        contradiction
      · exact hm
    obtain ⟨r'', hrun⟩ := h.error hread he more
    refine ⟨r'', ?_⟩
    rw [Read.resuming, hrun]
    cases e <;> first | rfl | contradiction

theorem forward_text : Forward text := by
  refine Forward.bind ?_ fun field => ?_
  · apply Forward.resuming
    exact forward_word32.bind fun _ => forward_offset.bind fun _ =>
      (forward_bytes _).bind fun _ => forward_pure _
  · dsimp only
    split
    · exact forward_pure _
    · exact forward_throw _

theorem forward_idList : Forward idList :=
  Forward.resuming (forward_word16.bind fun _ => (forward_bytes _).bind fun _ => forward_pure _)

/-! ## Codes -/

theorem forward_coded (ofCode? : UInt8 → Option α) (reason : String) :
    Forward (coded ofCode? reason) := by
  refine forward_offset.bind fun start => forward_byte.bind fun code => ?_
  cases ofCode? code with
  | some value => exact forward_pure _
  | none => exact forward_throw _

/-! ## Expressions -/

theorem forward_token : Forward token := by
  refine forward_offset.bind fun start => forward_byte.bind fun kind => ?_
  split
  · exact forward_int32.bind fun _ => forward_pure _
  · exact forward_single.bind fun _ => forward_pure _
  · exact forward_variableId.bind fun _ => forward_pure _
  · refine forward_byte.bind fun code => ?_
    cases BinaryOp.ofCode? code with
    | some op => exact forward_pure _
    | none => exact forward_throw _
  · refine forward_byte.bind fun code => ?_
    cases UnaryOp.ofCode? code with
    | some op => exact forward_pure _
    | none => exact forward_throw _
  · exact forward_throw _

theorem forward_tokens (count : Nat) (stack : List Expression) : Forward (tokens count stack) := by
  induction count generalizing stack with
  | zero => exact forward_pure _
  | succ count ih =>
      refine forward_offset.bind fun start => forward_token.bind fun t => ?_
      cases t.push? stack with
      | some stack => exact ih stack
      | none => exact forward_throw _

theorem forward_expression : Forward expression := by
  refine forward_offset.bind fun start => forward_word16.bind fun count => ?_
  dsimp only
  split
  · exact forward_throw _
  · refine (forward_tokens _ _).bind fun stack => ?_
    split
    · exact forward_pure _
    · exact forward_throw _

/-! ## Operands -/

theorem forward_linear : Forward linear :=
  (forward_coded _ _).bind fun _ => (forward_coded _ _).bind fun _ =>
    forward_single.bind fun _ => forward_pure _

theorem forward_box : Forward box :=
  (forward_coded _ _).bind fun _ => (forward_coded _ _).bind fun _ => forward_pure _

theorem forward_textContent : Forward textContent :=
  forward_variableId.bind fun _ => forward_variableId.bind fun _ => forward_single.bind fun _ =>
    forward_word16.bind fun _ => (forward_coded _ _).bind fun _ => forward_pure _

theorem forward_dimension : Forward dimension := by
  refine forward_offset.bind fun start => forward_byte.bind fun code =>
    forward_single.bind fun units => ?_
  cases Dimension.ofCode? code units with
  | some d => exact forward_pure _
  | none => exact forward_throw _

theorem forward_visibility : Forward visibility := by
  refine forward_offset.bind fun start => forward_byte.bind fun source =>
    forward_word32.bind fun word => ?_
  split
  · cases visibilityOfWord? word with
    | some visibility => exact forward_pure _
    | none => exact forward_throw _
  · exact forward_pure _
  · exact forward_throw _

/-- A read of one field, of which something is made. -/
theorem Forward.one (hm : Forward m) (use : α → β) : Forward (do return use (← m)) :=
  hm.bind fun _ => forward_pure _

/-- A read of two fields, of which something is made. -/
theorem Forward.two {γ : Type} {n : Read β} (hm : Forward m) (hn : Forward n) (use : α → β → γ) :
    Forward (do return use (← m) (← n)) :=
  hm.bind fun _ => hn.bind fun _ => forward_pure _

theorem forward_operands (op : Opcode) : Forward (operands op) := by
  cases op with
  | integerValue => exact forward_variableId.two forward_int32 _
  | floatValue => exact forward_variableId.two forward_single _
  | textData => exact forward_variableId.two forward_text _
  | colorValue => exact forward_variableId.two forward_word32 _
  | listValue => exact forward_variableId.two forward_idList _
  | namedVariable => exact forward_variableId.two forward_text _
  | integerExpression => exact forward_variableId.two forward_expression _
  | floatExpression => exact forward_variableId.two forward_expression _
  | textLookup => exact forward_variableId.bind fun _ => forward_variableId.two forward_variableId _
  | textFromNumber => exact forward_variableId.bind fun _ => forward_variableId.two forward_byte _
  | rowStart => exact forward_componentId.two forward_linear _
  | columnStart => exact forward_componentId.two forward_linear _
  | boxStart => exact forward_componentId.two forward_box _
  | text => exact forward_componentId.two forward_textContent _
  | spacer => exact forward_componentId.one _
  | containerEnd => exact forward_pure _
  | width => exact forward_dimension.one _
  | height => exact forward_dimension.one _
  | padding =>
      exact forward_single.bind fun _ => forward_single.bind fun _ =>
        forward_single.two forward_single _
  | background => exact forward_variableId.one _
  | border => exact forward_single.two forward_variableId _
  | visibility => exact forward_visibility.one _
  | touchAction => exact (forward_coded _ _).two forward_idList _
  | valueIntegerChange => exact forward_actionId.two (forward_variableId.two forward_int32 _) _
  | valueFloatChange => exact forward_actionId.two (forward_variableId.two forward_single _) _
  | valueStringChange => exact forward_actionId.two (forward_variableId.two forward_variableId _) _
  | valueIntegerExpressionChange =>
      exact forward_actionId.two (forward_variableId.two forward_variableId _) _
  | hostAction => exact forward_actionId.two (forward_word32.one _) _

theorem forward_operation (profile : Profile) : Forward (operation profile) := by
  refine forward_offset.bind fun start => forward_byte.bind fun code => ?_
  cases Opcode.ofCode? code with
  | none => exact forward_throw _
  | some op =>
      dsimp only
      split
      · exact forward_operands op
      · exact forward_throw _

end Wire.Read

end Panel
