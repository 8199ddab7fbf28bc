import Panel.Proofs.Wire.Expression

/-!
# Operations as bytes

The reader of operations accepts what is written for some operation and, beside it, one thing only:
a width or height that is not fixed may carry any units, which are written back as zero.

* `Operation.Spelling` names the encodings from which an operation is read;
* `operation_eq_ok` says that these are all.
-/

namespace Panel

open Wire

/-! ## Spellings -/

/-- The encodings from which a requested size is read.  Only a fixed one looks at its units. -/
def Dimension.Spelling (d : Dimension) (e : Encoding) : Prop :=
  ∃ units, (d.code = 1 → units = d.units) ∧ e = .byte d.code ++ .single units

/-- The encodings from which the operands of an operation are read. -/
def Operation.OperandsSpelling : Operation → Encoding → Prop
  | .modifier (.width d), e => d.Spelling e
  | .modifier (.height d), e => d.Spelling e
  | op, e => e = op.operandsEncoding

/-- The encodings from which an operation is read. -/
def Operation.Spelling (op : Operation) (e : Encoding) : Prop :=
  ∃ operands, op.OperandsSpelling operands ∧ e = .byte op.opcode.code ++ operands

theorem Dimension.spelling_encoding (d : Dimension) : d.Spelling d.encoding :=
  ⟨d.units, fun _ => rfl, rfl⟩

/-- What is written for an operation is one of the encodings from which it is read. -/
theorem Operation.spelling_encoding (op : Operation) : op.Spelling op.encoding := by
  refine ⟨op.operandsEncoding, ?_, rfl⟩
  unfold OperandsSpelling
  split
  · exact Dimension.spelling_encoding _
  · exact Dimension.spelling_encoding _
  · rfl

namespace Wire.Read

variable {r r' : Reader}

/-! ## Codes -/

theorem arrangement_eq_ok {reason : String} {a : Arrangement} :
    coded Arrangement.ofCode? reason r = .ok a r' ↔ r.Holds (.byte a.code) r' :=
  coded_eq_ok fun _ _ => Arrangement.ofCode?_eq_some_iff

theorem alignment_eq_ok {reason : String} {a : Alignment} :
    coded Alignment.ofCode? reason r = .ok a r' ↔ r.Holds (.byte a.code) r' :=
  coded_eq_ok fun _ _ => Alignment.ofCode?_eq_some_iff

theorem flag_eq_ok {reason : String} {flag : Bool} :
    coded flagOfCode? reason r = .ok flag r' ↔ r.Holds (flagEncoding flag) r' :=
  coded_eq_ok fun _ _ => flagOfCode?_eq_some_iff

theorem trigger_eq_ok {reason : String} {t : TouchTrigger} :
    coded TouchTrigger.ofCode? reason r = .ok t r' ↔ r.Holds (.byte t.code) r' :=
  coded_eq_ok fun _ _ => TouchTrigger.ofCode?_eq_some_iff

/-! ## Groups of operands -/

theorem linear_eq_ok {layout : LinearLayout} :
    linear r = .ok layout r' ↔ r.Holds layout.encoding r' := by
  simp only [linear, bind_eq_ok, arrangement_eq_ok, alignment_eq_ok, single_eq_ok, pure_eq_ok]
  constructor
  · rintro ⟨_, _, harrangement, _, _, halignment, _, _, hspacing, rfl, rfl⟩
    exact (harrangement.append halignment).append hspacing
  · intro h
    obtain ⟨_, h, hspacing⟩ := Reader.holds_append.1 h
    obtain ⟨_, harrangement, halignment⟩ := Reader.holds_append.1 h
    exact ⟨_, _, harrangement, _, _, halignment, _, _, hspacing, rfl, rfl⟩

theorem box_eq_ok {layout : BoxLayout} :
    box r = .ok layout r' ↔
      r.Holds (.byte layout.horizontal.code ++ .byte layout.vertical.code) r' := by
  simp only [box, bind_eq_ok, alignment_eq_ok, pure_eq_ok]
  constructor
  · rintro ⟨_, _, hhorizontal, _, _, hvertical, rfl, rfl⟩
    exact hhorizontal.append hvertical
  · intro h
    obtain ⟨_, hhorizontal, hvertical⟩ := Reader.holds_append.1 h
    exact ⟨_, _, hhorizontal, _, _, hvertical, rfl, rfl⟩

theorem textContent_eq_ok {content : TextContent} :
    textContent r = .ok content r' ↔ r.Holds (ComponentKind.text content).encoding r' := by
  simp only [textContent, bind_eq_ok, variableId_eq_ok, single_eq_ok, word16_eq_ok, flag_eq_ok,
    pure_eq_ok]
  constructor
  · rintro ⟨_, _, htext, _, _, hcolor, _, _, hsize, _, _, hweight, _, _, hitalic, rfl, rfl⟩
    exact (((htext.append hcolor).append hsize).append hweight).append hitalic
  · intro h
    obtain ⟨_, h, hitalic⟩ := Reader.holds_append.1 h
    obtain ⟨_, h, hweight⟩ := Reader.holds_append.1 h
    obtain ⟨_, h, hsize⟩ := Reader.holds_append.1 h
    obtain ⟨_, htext, hcolor⟩ := Reader.holds_append.1 h
    exact ⟨_, _, htext, _, _, hcolor, _, _, hsize, _, _, hweight, _, _, hitalic, rfl, rfl⟩

theorem dimension_eq_ok {d : Dimension} :
    dimension r = .ok d r' ↔ ∃ e, d.Spelling e ∧ r.Holds e r' := by
  simp only [dimension, bind_eq_ok, offset_eq_ok, byte_eq_ok, single_eq_ok]
  constructor
  · rintro ⟨_, _, ⟨rfl, rfl⟩, code, r₁, hcode, units, r₂, hunits, h⟩
    cases hd : Dimension.ofCode? code units with
    | some d' =>
      rw [hd] at h
      obtain ⟨rfl, rfl⟩ := pure_eq_ok.1 h
      obtain ⟨rfl, hfixed⟩ := Dimension.ofCode?_eq_some_iff.1 hd
      exact ⟨_, ⟨units, hfixed, rfl⟩, hcode.append hunits⟩
    | none =>
      rw [hd] at h
      exact absurd h throw_ne_ok
  · rintro ⟨_, ⟨units, hfixed, rfl⟩, h⟩
    obtain ⟨_, hcode, hunits⟩ := Reader.holds_append.1 h
    refine ⟨_, _, ⟨rfl, rfl⟩, _, _, hcode, _, _, hunits, ?_⟩
    rw [Dimension.ofCode?_eq_some_iff.2 ⟨rfl, hfixed⟩]
    exact pure_eq_ok.2 ⟨rfl, rfl⟩

theorem visibilityOfWord?_eq_some_iff {word : UInt32} {v : Visibility} :
    visibilityOfWord? word = some v ↔ word = v.code.toUInt32 := by
  unfold visibilityOfWord?
  constructor
  · intro h
    split at h
    · rename_i hlt
      have hcode := Visibility.ofCode?_eq_some_iff.1 h
      have hword : word.toNat < 256 := UInt32.lt_iff_toNat_lt.1 hlt
      rw [← hcode, ← UInt32.toNat_inj, UInt8.toNat_toUInt32, UInt32.toNat_toUInt8,
        Nat.mod_eq_of_lt hword]
    · cases h
  · rintro rfl
    cases v <;> rfl

theorem visibility_eq_ok {source : VisibilitySource} :
    visibility r = .ok source r' ↔ r.Holds source.encoding r' := by
  simp only [visibility, bind_eq_ok, offset_eq_ok, byte_eq_ok, word32_eq_ok]
  constructor
  · rintro ⟨_, _, ⟨rfl, rfl⟩, kind, _, hkind, word, _, hword, h⟩
    split at h
    · cases hv : visibilityOfWord? word with
      | some v =>
        rw [hv] at h
        obtain ⟨rfl, rfl⟩ := pure_eq_ok.1 h
        obtain rfl := visibilityOfWord?_eq_some_iff.1 hv
        exact hkind.append hword
      | none =>
        rw [hv] at h
        exact absurd h throw_ne_ok
    · obtain ⟨rfl, rfl⟩ := pure_eq_ok.1 h
      exact hkind.append hword
    · exact absurd h throw_ne_ok
  · intro h
    cases source with
    | literal v =>
      obtain ⟨_, hkind, hword⟩ := Reader.holds_append.1 h
      refine ⟨_, _, ⟨rfl, rfl⟩, _, _, hkind, _, _, hword, ?_⟩
      simp only [visibilityOfWord?_eq_some_iff.2 rfl]
      exact pure_eq_ok.2 ⟨rfl, rfl⟩
    | reference id =>
      obtain ⟨_, hkind, hword⟩ := Reader.holds_append.1 h
      exact ⟨_, _, ⟨rfl, rfl⟩, _, _, hkind, _, _, hword, pure_eq_ok.2 ⟨rfl, rfl⟩⟩

/-! ## Operands -/

theorem spelling_of_operands {code : Opcode} {op : Operation} (h : operands code r = .ok op r') :
    op.opcode = code ∧ ∃ e, op.OperandsSpelling e ∧ r.Holds e r' := by
  cases code <;>
    simp only [operands, action, bind_eq_ok, pure_eq_ok, byte_eq_ok, word32_eq_ok, int32_eq_ok,
      single_eq_ok, variableId_eq_ok, componentId_eq_ok, actionId_eq_ok, text_eq_ok,
      expression_eq_ok, linear_eq_ok, box_eq_ok, textContent_eq_ok, dimension_eq_ok,
      visibility_eq_ok, trigger_eq_ok] at h
  case integerValue =>
    obtain ⟨_, _, hid, _, _, hvalue, rfl, rfl⟩ := h
    exact ⟨rfl, _, rfl, hid.append hvalue⟩
  case floatValue =>
    obtain ⟨_, _, hid, _, _, hvalue, rfl, rfl⟩ := h
    exact ⟨rfl, _, rfl, hid.append hvalue⟩
  case textData =>
    obtain ⟨_, _, hid, _, _, htext, rfl, rfl⟩ := h
    exact ⟨rfl, _, rfl, hid.append htext⟩
  case colorValue =>
    obtain ⟨_, _, hid, word, _, hword, rfl, rfl⟩ := h
    refine ⟨rfl, _, rfl, hid.append ?_⟩
    rwa [Value.encoding, Color.toWord_ofWord]
  case listValue =>
    obtain ⟨_, _, hid, ids, _, hids, rfl, rfl⟩ := h
    refine ⟨rfl, _, rfl, hid.append ?_⟩
    rw [Value.encoding, VariableId.map_number_map_mk]
    exact (idList_eq_ok "list").1 hids
  case namedVariable =>
    obtain ⟨_, _, hid, _, _, hname, rfl, rfl⟩ := h
    exact ⟨rfl, _, rfl, hid.append hname⟩
  case integerExpression =>
    obtain ⟨_, _, hid, _, _, hexpression, rfl, rfl⟩ := h
    exact ⟨rfl, _, rfl, hid.append hexpression⟩
  case floatExpression =>
    obtain ⟨_, _, hid, _, _, hexpression, rfl, rfl⟩ := h
    exact ⟨rfl, _, rfl, hid.append hexpression⟩
  case textLookup =>
    obtain ⟨_, _, hid, _, _, hlist, _, _, hindex, rfl, rfl⟩ := h
    exact ⟨rfl, _, rfl, hid.append (hlist.append hindex)⟩
  case textFromNumber =>
    obtain ⟨_, _, hid, _, _, hsource, _, _, hplaces, rfl, rfl⟩ := h
    exact ⟨rfl, _, rfl, hid.append (hsource.append hplaces)⟩
  case rowStart =>
    obtain ⟨_, _, hid, _, _, hlayout, rfl, rfl⟩ := h
    exact ⟨rfl, _, rfl, hid.append hlayout⟩
  case columnStart =>
    obtain ⟨_, _, hid, _, _, hlayout, rfl, rfl⟩ := h
    exact ⟨rfl, _, rfl, hid.append hlayout⟩
  case boxStart =>
    obtain ⟨_, _, hid, _, _, hlayout, rfl, rfl⟩ := h
    exact ⟨rfl, _, rfl, hid.append hlayout⟩
  case text =>
    obtain ⟨_, _, hid, _, _, hcontent, rfl, rfl⟩ := h
    exact ⟨rfl, _, rfl, hid.append hcontent⟩
  case spacer =>
    obtain ⟨_, _, hid, rfl, rfl⟩ := h
    exact ⟨rfl, _, rfl, hid.append (Reader.holds_empty.2 rfl)⟩
  case containerEnd =>
    obtain ⟨rfl, rfl⟩ := h
    exact ⟨rfl, _, rfl, Reader.holds_empty.2 rfl⟩
  case width =>
    obtain ⟨_, _, hd, rfl, rfl⟩ := h
    exact ⟨rfl, hd⟩
  case height =>
    obtain ⟨_, _, hd, rfl, rfl⟩ := h
    exact ⟨rfl, hd⟩
  case padding =>
    obtain ⟨_, _, hleft, _, _, htop, _, _, hright, _, _, hbottom, rfl, rfl⟩ := h
    exact ⟨rfl, _, rfl, ((hleft.append htop).append hright).append hbottom⟩
  case background =>
    obtain ⟨_, _, hcolor, rfl, rfl⟩ := h
    exact ⟨rfl, _, rfl, hcolor⟩
  case border =>
    obtain ⟨_, _, hthickness, _, _, hcolor, rfl, rfl⟩ := h
    exact ⟨rfl, _, rfl, hthickness.append hcolor⟩
  case visibility =>
    obtain ⟨_, _, hsource, rfl, rfl⟩ := h
    exact ⟨rfl, _, rfl, hsource⟩
  case touchAction =>
    obtain ⟨_, _, htrigger, ids, _, hids, rfl, rfl⟩ := h
    refine ⟨rfl, _, rfl, htrigger.append ?_⟩
    rw [ActionId.map_number_map_mk]
    exact (idList_eq_ok "touch action").1 hids
  case valueIntegerChange =>
    obtain ⟨_, _, hid, _, _, ⟨_, _, htarget, _, _, hvalue, rfl, rfl⟩, rfl, rfl⟩ := h
    exact ⟨rfl, _, rfl, hid.append (htarget.append hvalue)⟩
  case valueFloatChange =>
    obtain ⟨_, _, hid, _, _, ⟨_, _, htarget, _, _, hvalue, rfl, rfl⟩, rfl, rfl⟩ := h
    exact ⟨rfl, _, rfl, hid.append (htarget.append hvalue)⟩
  case valueStringChange =>
    obtain ⟨_, _, hid, _, _, ⟨_, _, htarget, _, _, htext, rfl, rfl⟩, rfl, rfl⟩ := h
    exact ⟨rfl, _, rfl, hid.append (htarget.append htext)⟩
  case valueIntegerExpressionChange =>
    obtain ⟨_, _, hid, _, _, ⟨_, _, htarget, _, _, hsource, rfl, rfl⟩, rfl, rfl⟩ := h
    exact ⟨rfl, _, rfl, hid.append (htarget.append hsource)⟩
  case hostAction =>
    obtain ⟨_, _, hid, _, _, ⟨_, _, hrequest, rfl, rfl⟩, rfl, rfl⟩ := h
    exact ⟨rfl, _, rfl, hid.append hrequest⟩

theorem operands_value {id : VariableId} {v : Value}
    (h : r.Holds (Operation.value id v).operandsEncoding r') :
    operands v.kind.opcode r = .ok (.value id v) r' := by
  obtain ⟨_, hid, hvalue⟩ := Reader.holds_append.1 h
  cases v <;>
    simp only [Value.kind, Kind.opcode, operands, bind_eq_ok, pure_eq_ok, variableId_eq_ok,
      int32_eq_ok, single_eq_ok, text_eq_ok, word32_eq_ok]
  case int value => exact ⟨_, _, hid, _, _, hvalue, rfl, rfl⟩
  case float value => exact ⟨_, _, hid, _, _, hvalue, rfl, rfl⟩
  case text value => exact ⟨_, _, hid, _, _, hvalue, rfl, rfl⟩
  case color value => exact ⟨_, _, hid, _, _, hvalue, by rw [Color.ofWord_toWord], rfl⟩
  case list items =>
    have hids := (idList_eq_ok "list").2 hvalue
    exact ⟨_, _, hid, _, _, hids, by rw [VariableId.map_mk_map_number], rfl⟩

theorem operands_derived {d : DerivedVariable}
    (h : r.Holds (Operation.derived d).operandsEncoding r') :
    operands d.recipe.opcode r = .ok (.derived d) r' := by
  obtain ⟨id, recipe⟩ := d
  obtain ⟨_, hid, hrecipe⟩ := Reader.holds_append.1 h
  cases recipe <;>
    simp only [Recipe.opcode, operands, bind_eq_ok, pure_eq_ok, variableId_eq_ok,
      expression_eq_ok, byte_eq_ok]
  case integer e => exact ⟨_, _, hid, _, _, hrecipe, rfl, rfl⟩
  case float e => exact ⟨_, _, hid, _, _, hrecipe, rfl, rfl⟩
  case textLookup list index =>
    obtain ⟨_, hlist, hindex⟩ := Reader.holds_append.1 hrecipe
    exact ⟨_, _, hid, _, _, hlist, _, _, hindex, rfl, rfl⟩
  case textFromNumber source places =>
    obtain ⟨_, hsource, hplaces⟩ := Reader.holds_append.1 hrecipe
    exact ⟨_, _, hid, _, _, hsource, _, _, hplaces, rfl, rfl⟩

theorem operands_component {id : ComponentId} {kind : ComponentKind}
    (h : r.Holds (Operation.component id kind).operandsEncoding r') :
    operands kind.opcode r = .ok (.component id kind) r' := by
  obtain ⟨_, hid, hkind⟩ := Reader.holds_append.1 h
  cases kind <;>
    simp only [ComponentKind.opcode, operands, bind_eq_ok, pure_eq_ok, componentId_eq_ok,
      linear_eq_ok, box_eq_ok, textContent_eq_ok]
  case row layout => exact ⟨_, _, hid, _, _, hkind, rfl, rfl⟩
  case column layout => exact ⟨_, _, hid, _, _, hkind, rfl, rfl⟩
  case box layout => exact ⟨_, _, hid, _, _, hkind, rfl, rfl⟩
  case text content => exact ⟨_, _, hid, _, _, hkind, rfl, rfl⟩
  case spacer =>
    obtain rfl := Reader.holds_empty.1 hkind
    exact ⟨_, _, hid, rfl, rfl⟩

theorem operands_modifier {m : Modifier} {e : Encoding}
    (he : (Operation.modifier m).OperandsSpelling e) (h : r.Holds e r') :
    operands m.opcode r = .ok (.modifier m) r' := by
  cases m <;>
    simp only [Modifier.opcode, operands, bind_eq_ok, pure_eq_ok, dimension_eq_ok, single_eq_ok,
      variableId_eq_ok, visibility_eq_ok, trigger_eq_ok]
  case width d => exact ⟨d, r', ⟨e, he, h⟩, rfl, rfl⟩
  case height d => exact ⟨d, r', ⟨e, he, h⟩, rfl, rfl⟩
  case padding p =>
    obtain rfl := he
    obtain ⟨_, h, hbottom⟩ := Reader.holds_append.1 h
    obtain ⟨_, h, hright⟩ := Reader.holds_append.1 h
    obtain ⟨_, hleft, htop⟩ := Reader.holds_append.1 h
    exact ⟨_, _, hleft, _, _, htop, _, _, hright, _, _, hbottom, rfl, rfl⟩
  case background color =>
    obtain rfl := he
    exact ⟨_, _, h, rfl, rfl⟩
  case border thickness color =>
    obtain rfl := he
    obtain ⟨_, hthickness, hcolor⟩ := Reader.holds_append.1 h
    exact ⟨_, _, hthickness, _, _, hcolor, rfl, rfl⟩
  case visibility source =>
    obtain rfl := he
    exact ⟨_, _, h, rfl, rfl⟩
  case touchAction trigger actions =>
    obtain rfl := he
    obtain ⟨_, htrigger, hactions⟩ := Reader.holds_append.1 h
    have hids := (idList_eq_ok "touch action").2 hactions
    exact ⟨_, _, htrigger, _, _, hids, by rw [ActionId.map_mk_map_number], rfl⟩

theorem operands_action {a : Action} (h : r.Holds (Operation.action a).operandsEncoding r') :
    operands a.effect.opcode r = .ok (.action a) r' := by
  obtain ⟨id, effect⟩ := a
  obtain ⟨_, hid, heffect⟩ := Reader.holds_append.1 h
  cases effect <;>
    simp only [Effect.opcode, operands, action, bind_eq_ok, pure_eq_ok, actionId_eq_ok,
      variableId_eq_ok, int32_eq_ok, single_eq_ok, word32_eq_ok]
  case setInteger target value =>
    obtain ⟨_, htarget, hvalue⟩ := Reader.holds_append.1 heffect
    exact ⟨_, _, hid, _, _, ⟨_, _, htarget, _, _, hvalue, rfl, rfl⟩, rfl, rfl⟩
  case setFloat target value =>
    obtain ⟨_, htarget, hvalue⟩ := Reader.holds_append.1 heffect
    exact ⟨_, _, hid, _, _, ⟨_, _, htarget, _, _, hvalue, rfl, rfl⟩, rfl, rfl⟩
  case copyText target text =>
    obtain ⟨_, htarget, htext⟩ := Reader.holds_append.1 heffect
    exact ⟨_, _, hid, _, _, ⟨_, _, htarget, _, _, htext, rfl, rfl⟩, rfl, rfl⟩
  case copyInteger target expression =>
    obtain ⟨_, htarget, hsource⟩ := Reader.holds_append.1 heffect
    exact ⟨_, _, hid, _, _, ⟨_, _, htarget, _, _, hsource, rfl, rfl⟩, rfl, rfl⟩
  case host request => exact ⟨_, _, hid, _, _, ⟨_, _, heffect, rfl, rfl⟩, rfl, rfl⟩

/-- The operands of an operation are read from each of its spellings. -/
theorem operands_of_spelling {op : Operation} {e : Encoding} (he : op.OperandsSpelling e)
    (h : r.Holds e r') : operands op.opcode r = .ok op r' := by
  cases op with
  | value id v =>
    obtain rfl := he
    exact operands_value h
  | name id text =>
    obtain rfl := he
    obtain ⟨_, hid, htext⟩ := Reader.holds_append.1 h
    simp only [Operation.opcode, operands, bind_eq_ok, pure_eq_ok, variableId_eq_ok, text_eq_ok]
    exact ⟨_, _, hid, _, _, htext, rfl, rfl⟩
  | derived d =>
    obtain rfl := he
    exact operands_derived h
  | component id kind =>
    obtain rfl := he
    exact operands_component h
  | containerEnd =>
    obtain rfl := he
    obtain rfl := Reader.holds_empty.1 h
    exact pure_eq_ok.2 ⟨rfl, rfl⟩
  | modifier m => exact operands_modifier he h
  | action a =>
    obtain rfl := he
    exact operands_action h

/-! ## Whole operations -/

theorem operation_eq_ok {profile : Profile} {op : Operation} :
    operation profile r = .ok op r' ↔
      profile.allows op.opcode.code = true ∧ ∃ e, op.Spelling e ∧ r.Holds e r' := by
  simp only [operation, bind_eq_ok, offset_eq_ok, byte_eq_ok]
  constructor
  · rintro ⟨_, _, ⟨rfl, rfl⟩, code, r₁, hcode, h⟩
    cases hopcode : Opcode.ofCode? code with
    | none =>
      rw [hopcode] at h
      exact absurd h throw_ne_ok
    | some opcode =>
      rw [hopcode] at h
      obtain rfl := Opcode.ofCode?_eq_some_iff.1 hopcode
      by_cases hallows : profile.allows opcode.code = true
      · simp only [if_pos hallows] at h
        obtain ⟨rfl, operands, hspelling, hoperands⟩ := spelling_of_operands h
        exact ⟨hallows, _, ⟨operands, hspelling, rfl⟩, hcode.append hoperands⟩
      · simp only [if_neg hallows] at h
        exact absurd h throw_ne_ok
  · rintro ⟨hallows, _, ⟨operands, hspelling, rfl⟩, h⟩
    obtain ⟨r₁, hcode, hoperands⟩ := Reader.holds_append.1 h
    refine ⟨_, _, ⟨rfl, rfl⟩, _, _, hcode, ?_⟩
    rw [Opcode.ofCode?_code]
    simp only [if_pos hallows]
    exact operands_of_spelling hspelling hoperands

end Wire.Read

end Panel
