import Panel.Proofs.Content.Valued
import Panel.Proofs.Draft.Names

/-!
# What the author writes is what the player reads

The answers that an author has got from a draft are kept beside the calls.  A constant or a variable
that a call has answered with is in the finished document with the value of the call, and the
document that is loaded reads the same value there.  Two constants are one exactly if their values
are, and no other call answers with the name of a variable that is not a constant.
-/

namespace Panel

/-! ## Calls that answer with a variable -/

namespace DraftCall

/-- The value that a call asks for under a name. -/
def value? : DraftCall → Option Value
  | constant value => some value
  | addVariable value => some value
  | _ => none

/-- Whether a call asks for a variable of its own. -/
def isVariable : DraftCall → Bool
  | addVariable _ => true
  | derive _ => true
  | _ => false

/-- The operation and the slot by which a call declares a variable under a name. -/
def declaration? (call : DraftCall) (id : VariableId) : Option (Operation × Slot) :=
  match call with
  | constant value => some (.value id value, ⟨id, value, true⟩)
  | addVariable value => some (.value id value, ⟨id, value, false⟩)
  | derive recipe => some (.derived ⟨id, recipe⟩, ⟨id, .default recipe.kind, false⟩)
  | _ => none

variable {call : DraftCall} {id : VariableId} {op : Operation} {slot : Slot} {value : Value}

theorem slot_of_declaration? (h : call.declaration? id = some (op, slot)) :
    slot.id = id ∧ slot.constant = !call.isVariable := by
  cases call <;> cases h <;> exact ⟨rfl, rfl⟩

theorem op_of_declaration? {other : VariableId}
    (h : call.declaration? id = some (op, ⟨other, value, true⟩)) : op = .value other value := by
  cases call <;> cases h
  rfl

theorem declaration?_of_value? (h : call.value? = some value) (id : VariableId) :
    ∃ slot, call.declaration? id = some (.value id value, slot) := by
  cases call <;> cases h <;> exact ⟨_, rfl⟩

end DraftCall

namespace Draft

variable {d e : Draft} {call : DraftCall} {answer : DraftAnswer} {id : VariableId}
  {op : Operation} {slot : Slot} {value : Value} {log : List (DraftCall × Option DraftAnswer)}

/-! ## Answers -/

/-- Calls one after the other, each with the answer to it. -/
def exchange (d : Draft) : List DraftCall → List (DraftCall × Option DraftAnswer)
  | [] => []
  | call :: calls => (call, d.answer? call) :: (d.perform call).exchange calls

theorem exchange_concat (d : Draft) (calls : List DraftCall) (call : DraftCall) :
    d.exchange (calls ++ [call]) = d.exchange calls ++ [(call, (d.run calls).answer? call)] := by
  induction calls generalizing d with
  | nil => rfl
  | cons first calls ih =>
      rw [List.cons_append, exchange, ih]
      rfl

/-- What an accepted call does.  It finds a constant that is there, or it declares a variable under
a new name, or it has nothing to do with variables. -/
inductive Accepted (d : Draft) (call : DraftCall) : DraftAnswer → Draft → Prop where
  | shared {value : Value} {id : VariableId} (hcall : call = .constant value)
      (hinterned : d.store.interned? value = some id) : Accepted d call (.variable id) d
  | declared {op : Operation} {slot : Slot}
      (hdeclaration : call.declaration? d.store.allocate.1 = some (op, slot))
      (hnew : slot.constant = true → d.store.interned? slot.value = none) :
      Accepted d call (.variable d.store.allocate.1) (d.declaring op slot)
  | other {answer : DraftAnswer} {e : Draft} {op : Operation}
      (hcall : ∀ id, call.declaration? id = none) (hanswer : ∀ id, answer ≠ .variable id)
      (hstore : e.store = d.store) (hoperations : e.operations = d.operations ++ [op]) :
      Accepted d call answer e

theorem accepted_of_request (h : d.request call = .ok (answer, e)) : d.Accepted call answer e := by
  cases call with
  | constant value =>
      obtain ⟨⟨id, _⟩, hconstant, ⟨⟩⟩ := Result.map_eq_ok.1 h
      obtain ⟨-, ⟨hinterned, rfl⟩ | ⟨hinterned, rfl, rfl⟩⟩ := constant_eq_ok.1 hconstant
      · exact .shared rfl hinterned
      · exact .declared rfl fun _ => hinterned
  | addVariable value =>
      obtain ⟨⟨id, _⟩, hadd, ⟨⟩⟩ := Result.map_eq_ok.1 h
      obtain ⟨-, rfl, rfl⟩ := addVariable_eq_ok.1 hadd
      exact .declared rfl nofun
  | derive recipe =>
      obtain ⟨⟨id, _⟩, hderive, ⟨⟩⟩ := Result.map_eq_ok.1 h
      obtain ⟨-, rfl, rfl⟩ := derive_eq_ok.1 hderive
      exact .declared rfl nofun
  | name id text =>
      obtain ⟨_, hpush, ⟨⟩⟩ := Result.map_eq_ok.1 h
      obtain ⟨-, rfl⟩ := push_eq_ok.1 hpush
      exact .other (fun _ => rfl) nofun rfl rfl
  | component kind =>
      obtain ⟨⟨id, _⟩, hcomponent, ⟨⟩⟩ := Result.map_eq_ok.1 h
      obtain ⟨-, rfl, rfl⟩ := component_eq_ok.1 hcomponent
      exact .other (fun _ => rfl) nofun rfl rfl
  | endContainer =>
      obtain ⟨_, hpush, ⟨⟩⟩ := Result.map_eq_ok.1 h
      obtain ⟨-, rfl⟩ := push_eq_ok.1 hpush
      exact .other (fun _ => rfl) nofun rfl rfl
  | modifier m =>
      obtain ⟨_, hpush, ⟨⟩⟩ := Result.map_eq_ok.1 h
      obtain ⟨-, rfl⟩ := push_eq_ok.1 hpush
      exact .other (fun _ => rfl) nofun rfl rfl
  | action effect =>
      obtain ⟨⟨id, _⟩, haction, ⟨⟩⟩ := Result.map_eq_ok.1 h
      obtain ⟨-, rfl, rfl⟩ := action_eq_ok.1 haction
      exact .other (fun _ => rfl) nofun rfl rfl

theorem Accepted.operations_prefix (h : d.Accepted call answer e) :
    d.operations <+: e.operations := by
  cases h with
  | shared => exact List.prefix_rfl
  | declared => exact List.prefix_append ..
  | other _ _ _ hoperations =>
      rw [hoperations]
      exact List.prefix_append ..

/-- A draft stays sound when a call is accepted, if its operations can still be counted. -/
theorem Sound.accepted (h : d.Sound) (hrequest : d.request call = .ok (answer, e))
    (hroom : e.operations.length < 2 ^ 32) : e.Sound := by
  have hlength {op : Operation} (hoperations : e.operations = d.operations ++ [op]) :
      d.operations.length + 1 < 2 ^ 32 := by
    rwa [hoperations, List.length_append, List.length_singleton] at hroom
  cases accepted_of_request hrequest with
  | shared => exact h
  | declared => exact (h.request (hlength rfl) hrequest).1
  | other _ _ _ hoperations => exact (h.request (hlength hoperations) hrequest).1

/-! ## What the answers say of the draft -/

/-- The name that a call for a variable of its own has been answered with. -/
def ownVariable? : DraftCall × Option DraftAnswer → Option VariableId
  | (call, some (.variable id)) => if call.isVariable then some id else none
  | _ => none

/-- What is known of a draft from the calls and their answers. -/
structure Recorded (log : List (DraftCall × Option DraftAnswer)) (d : Draft) : Prop where
  sound : d.Sound
  declared : ∀ call id, (call, some (.variable id)) ∈ log → ∃ op slot,
    call.declaration? id = some (op, slot) ∧ op ∈ d.operations ∧ slot ∈ d.store.slots
  constants : ∀ id value, (⟨id, value, true⟩ : Slot) ∈ d.store.slots →
    .value id value ∈ d.operations
  shared : ∀ value a b, (⟨a, value, true⟩ : Slot) ∈ d.store.slots →
    ⟨b, value, true⟩ ∈ d.store.slots → a = b
  own : log.filterMap ownVariable? = (d.store.slots.filter (!·.constant)).map (·.id)

theorem recorded_new (profile : Profile) : Recorded [] (.new profile) where
  sound := .new profile
  declared := nofun
  constants := nofun
  shared := nofun
  own := rfl

namespace Recorded

theorem declared_mono (h : Recorded log d) (hoperations : d.operations <+: e.operations)
    (hslots : d.store.slots <+: e.store.slots) (hcall : (call, some (.variable id)) ∈ log) :
    ∃ op slot, call.declaration? id = some (op, slot) ∧ op ∈ e.operations ∧
      slot ∈ e.store.slots := by
  obtain ⟨op, slot, hdeclaration, hop, hslot⟩ := h.declared call id hcall
  exact ⟨op, slot, hdeclaration, hoperations.subset hop, hslots.subset hslot⟩

/-- An answer that names no variable. -/
theorem concat_other (h : Recorded log d) {answer : Option DraftAnswer}
    (hanswer : ∀ id, answer ≠ some (.variable id)) (hsound : e.Sound)
    (hstore : e.store = d.store) (hoperations : d.operations <+: e.operations) :
    Recorded (log ++ [(call, answer)]) e where
  sound := hsound
  declared := by
    intro other id hmem
    rcases List.mem_append.1 hmem with hmem | hmem
    · exact h.declared_mono hoperations (hstore ▸ List.prefix_rfl) hmem
    · have hsame := (Prod.mk.inj (List.mem_singleton.1 hmem)).2
      exact absurd hsame.symm (hanswer id)
  constants := by
    rw [hstore]
    exact fun id value hslot => hoperations.subset (h.constants id value hslot)
  shared := by
    rw [hstore]
    exact h.shared
  own := by
    have hnone : ownVariable? (call, answer) = none := by
      unfold ownVariable?
      split
      · next heq => exact absurd (Prod.mk.inj heq).2 (hanswer _)
      · rfl
    rw [filterMap_concat_none hnone, h.own, hstore]

/-- An answer that names a constant which is there already. -/
theorem concat_shared (h : Recorded log d) (hinterned : d.store.interned? value = some id) :
    Recorded (log ++ [(.constant value, some (.variable id))]) d where
  sound := h.sound
  declared := by
    intro other otherId hmem
    rcases List.mem_append.1 hmem with hmem | hmem
    · exact h.declared other otherId hmem
    · cases List.mem_singleton.1 hmem
      have hslot := Store.mem_slots_of_interned? hinterned
      exact ⟨_, _, rfl, h.constants id value hslot, hslot⟩
  constants := h.constants
  shared := h.shared
  own := by
    rw [filterMap_concat_none rfl, h.own]

/-- An answer that names a variable which has been declared for it. -/
theorem concat_declared (h : Recorded log d)
    (hdeclaration : call.declaration? d.store.allocate.1 = some (op, slot))
    (hnew : slot.constant = true → d.store.interned? slot.value = none)
    (hsound : (d.declaring op slot).Sound) :
    Recorded (log ++ [(call, some (.variable d.store.allocate.1))]) (d.declaring op slot) where
  sound := hsound
  declared := by
    intro other id hmem
    rcases List.mem_append.1 hmem with hmem | hmem
    · exact h.declared_mono (List.prefix_append ..) (List.prefix_append ..) hmem
    · cases List.mem_singleton.1 hmem
      exact ⟨op, slot, hdeclaration, List.mem_append_right _ (List.mem_singleton_self op),
        List.mem_append_right _ (List.mem_singleton_self slot)⟩
  constants := by
    intro id value hslot
    rcases List.mem_append.1 hslot with hslot | hslot
    · exact List.mem_append_left _ (h.constants id value hslot)
    · obtain rfl := List.mem_singleton.1 hslot
      rw [DraftCall.op_of_declaration? hdeclaration]
      exact List.mem_append_right _ (List.mem_singleton_self _)
  shared := by
    -- The new slot is no constant, or the first one with its value.
    have hfirst {value : Value} {a b : VariableId} (ha : (⟨a, value, true⟩ : Slot) ∈ d.store.slots)
        (hb : ⟨b, value, true⟩ = slot) : a = b := by
      subst hb
      exact absurd ha (Store.notMem_slots_of_interned? (hnew rfl) a)
    intro value a b ha hb
    rcases List.mem_append.1 ha with ha | ha <;> rcases List.mem_append.1 hb with hb | hb
    · exact h.shared value a b ha hb
    · exact hfirst ha (List.mem_singleton.1 hb)
    · exact (hfirst hb (List.mem_singleton.1 ha)).symm
    · exact congrArg Slot.id ((List.mem_singleton.1 ha).trans (List.mem_singleton.1 hb).symm)
  own := by
    obtain ⟨hid, hconstant⟩ := DraftCall.slot_of_declaration? hdeclaration
    show _ = ((d.store.slots ++ [slot]).filter (!·.constant)).map (·.id)
    cases hvariable : call.isVariable with
    | true =>
        have hsome : ownVariable? (call, some (.variable d.store.allocate.1)) =
            some d.store.allocate.1 := if_pos hvariable
        rw [filterMap_concat_some hsome, h.own]
        simp [hconstant, hvariable, hid]
    | false =>
        have hnone : ownVariable? (call, some (.variable d.store.allocate.1)) = none :=
          if_neg (Bool.eq_false_iff.1 hvariable)
        rw [filterMap_concat_none hnone, h.own]
        simp [hconstant, hvariable]

theorem concat_accepted (h : Recorded log d) (haccepted : d.Accepted call answer e)
    (hsound : e.Sound) : Recorded (log ++ [(call, some answer)]) e := by
  cases haccepted with
  | shared hcall hinterned =>
      rw [hcall]
      exact h.concat_shared hinterned
  | declared hdeclaration hnew => exact h.concat_declared hdeclaration hnew hsound
  | other _ hanswer hstore hoperations =>
      refine h.concat_other ?_ hsound hstore (hoperations ▸ List.prefix_append ..)
      exact fun id => mt Option.some.inj (hanswer id)

end Recorded

/-- Any calls, as long as the operations that come of them can be counted. -/
theorem recorded_run {profile : Profile} {calls : List DraftCall}
    (hroom : ((new profile).run calls).operations.length < 2 ^ 32) :
    Recorded ((new profile).exchange calls) ((new profile).run calls) := by
  induction calls using List.reverseRecOn with
  | nil => exact recorded_new profile
  | append_singleton calls call ih =>
      rw [run_concat] at hroom ⊢
      rw [exchange_concat]
      rcases answer?_cases ((new profile).run calls) call with
        ⟨hrefused, hanswer⟩ | ⟨answer, hanswer, hrequest⟩
      · rw [hrefused] at hroom ⊢
        rw [hanswer]
        have hfront := ih hroom
        exact hfront.concat_other nofun hfront.sound rfl List.prefix_rfl
      · rw [hanswer]
        have haccepted := accepted_of_request hrequest
        have hlength := haccepted.operations_prefix.length_le
        have hfront := ih (Nat.lt_of_le_of_lt hlength hroom)
        exact hfront.concat_accepted haccepted (hfront.sound.accepted hrequest hroom)

/-! ## The names in the answers -/

namespace Recorded

/-- Two answers name the same constant exactly if they are answers to the same value. -/
theorem constant_iff (h : Recorded log d) {v w : Value} {a b : VariableId}
    (hv : (.constant v, some (.variable a)) ∈ log) (hw : (.constant w, some (.variable b)) ∈ log) :
    a = b ↔ v = w := by
  obtain ⟨_, _, ⟨⟩, -, hslot⟩ := h.declared _ _ hv
  obtain ⟨_, _, ⟨⟩, -, hslot'⟩ := h.declared _ _ hw
  constructor
  · intro hid
    exact congrArg Slot.value (List.inj_on_of_nodup_map h.sound.distinct hslot hslot' hid)
  · rintro rfl
    exact h.shared v a b hslot hslot'

/-- Nothing else is answered with the name of a variable that a call asked for itself. -/
theorem notMem_of_isVariable {before after : List (DraftCall × Option DraftAnswer)}
    (h : Recorded (before ++ (call, some (.variable id)) :: after) d)
    (hcall : call.isVariable = true) (other : DraftCall) :
    (other, some (.variable id)) ∉ before ++ after := by
  intro hother
  let asked : DraftCall × Option DraftAnswer := (call, some (.variable id))
  have hmiddle : (before ++ asked :: after).Perm (asked :: (before ++ after)) := List.perm_middle
  have hmem := hmiddle.mem_iff.2 (List.mem_cons_of_mem asked hother)
  have hasked := hmiddle.mem_iff.2 List.mem_cons_self
  cases hkind : other.isVariable with
  | true =>
      have hnodup : ((before ++ asked :: after).filterMap ownVariable?).Nodup := by
        rw [h.own]
        exact h.sound.distinct.sublist (List.filter_sublist.map _)
      have hown : ownVariable? asked = some id := if_pos hcall
      have hown' : ownVariable? (other, some (.variable id)) = some id := if_pos hkind
      rw [(hmiddle.filterMap _).nodup_iff, List.filterMap_cons_some hown] at hnodup
      exact (List.nodup_cons.1 hnodup).1 (List.mem_filterMap.2 ⟨_, hother, hown'⟩)
  | false =>
      obtain ⟨_, slot, hdeclaration, -, hslot⟩ := h.declared _ _ hmem
      obtain ⟨_, own, hown, -, hslot'⟩ := h.declared _ _ hasked
      obtain ⟨hid, hconstant⟩ := DraftCall.slot_of_declaration? hdeclaration
      obtain ⟨hid', hconstant'⟩ := DraftCall.slot_of_declaration? hown
      have hsame := List.inj_on_of_nodup_map h.sound.distinct hslot hslot' (hid.trans hid'.symm)
      rw [hsame, hconstant', hcall, hkind] at hconstant
      contradiction

end Recorded

end Draft

/-! ## Loading -/

/-- What an operation declares with a value is read in the document that is loaded. -/
theorem Document.get_of_load {profile : Profile} {operations : List Operation}
    {bytes : List UInt8} {config : Config} {document : Document} {id : VariableId} {value : Value}
    (hencode : Wire.encodeDocument operations profile = .ok bytes)
    (hload : load bytes config = .ok document) (hop : .value id value ∈ operations) :
    document.get id = .ok value := by
  obtain ⟨decoded, hdecode, hload⟩ := Result.bind_eq_ok.1 hload
  obtain ⟨content, hcontent, ⟨⟩⟩ := Result.bind_eq_ok.1 hload
  rw [Wire.operations_of_decodeDocument hencode hdecode] at hcontent
  exact Content.get_refreshed_of_ofOperations hcontent hop

/-- Of any calls of an author that end in bytes which a player loads: what a call for a constant or
a variable has answered with has the value of the call when it is read, two constants have the same
name exactly if their values are the same, and a variable that is not a constant has a name that no
other call was answered with. -/
theorem Draft.loaded_as_written {profile : Profile} {calls : List DraftCall} {bytes : List UInt8}
    {config : Config} {document : Document}
    (hfinish : ((Draft.new profile).run calls).finish = .ok bytes)
    (hload : Document.load bytes config = .ok document) :
    let log := (Draft.new profile).exchange calls
    (∀ call value id, call.value? = some value → (call, some (.variable id)) ∈ log →
      document.get id = .ok value) ∧
    (∀ v w a b, (.constant v, some (.variable a)) ∈ log → (.constant w, some (.variable b)) ∈ log →
      (a = b ↔ v = w)) ∧
    ∀ before call id after, log = before ++ (call, some (.variable id)) :: after →
      call.isVariable = true → ∀ other, (other, some (.variable id)) ∉ before ++ after := by
  intro log
  have hrecorded := recorded_run (Wire.length_lt_of_encodeDocument hfinish)
  refine ⟨?_, fun v w a b => hrecorded.constant_iff, ?_⟩
  · intro call value id hvalue hmem
    obtain ⟨_, _, hdeclaration, hop, -⟩ := hrecorded.declared call id hmem
    obtain ⟨slot, hvalued⟩ := DraftCall.declaration?_of_value? hvalue id
    rw [hvalued] at hdeclaration
    cases hdeclaration
    exact Document.get_of_load hfinish hload hop
  · intro before call id after hlog
    change Recorded log _ at hrecorded
    rw [hlog] at hrecorded
    exact hrecorded.notMem_of_isVariable

/-- A not-a-number with a payload, twice as a constant and once as a variable. -/
theorem Draft.loaded_as_written_payload :
    let payload : Value := .float ⟨0x7FC00001⟩
    let calls : List DraftCall := [.constant payload, .constant payload, .addVariable payload,
      .derive (.textFromNumber ⟨2⟩ 0), .constant (.list [⟨1⟩, ⟨2⟩]),
      .component (.box ⟨.start, .start⟩), .endContainer]
    let log := (Draft.new .core2).exchange calls
    let bytes : List UInt8 := [0, 2, 0, 1, 0, 0, 0, 51, 2, 0, 0, 0, 1, 127, 192, 0, 1,
      2, 0, 0, 0, 2, 127, 192, 0, 1, 19, 0, 0, 0, 3, 0, 0, 0, 2, 0,
      5, 0, 0, 0, 4, 0, 2, 0, 0, 0, 1, 0, 0, 0, 2, 34, 0, 0, 0, 1, 0, 0, 47]
    ((Draft.new .core2).run calls).finish = .ok bytes ∧
      ∃ document, Document.load bytes {} = .ok document ∧
        document.get ⟨1⟩ = .ok payload ∧ document.get ⟨2⟩ = .ok payload ∧
        document.get ⟨4⟩ = .ok (.list [⟨1⟩, ⟨2⟩]) ∧
        ((⟨1⟩ : VariableId) = ⟨4⟩ ↔ payload = .list [⟨1⟩, ⟨2⟩]) ∧
        ∀ other, (other, some (.variable ⟨2⟩)) ∉ log.take 2 ++ log.drop 3 := by
  intro payload calls log bytes
  have hfinish : ((Draft.new .core2).run calls).finish = .ok bytes := by decide +kernel
  have hfacts : (Document.load bytes {}).toOption.any (fun _ => true) = true := by decide +kernel
  obtain ⟨document, hload, -⟩ := Result.exists_ok_of_any hfacts
  obtain ⟨hget, hconstants, hown⟩ := loaded_as_written hfinish hload
  have hlog : log = log.take 2 ++ (.addVariable payload, some (.variable ⟨2⟩)) :: log.drop 3 := by
    decide +kernel
  have hpayload : (.constant payload, some (.variable ⟨1⟩)) ∈ log := by decide +kernel
  have hlist : (.constant (.list [⟨1⟩, ⟨2⟩]), some (.variable ⟨4⟩)) ∈ log := by decide +kernel
  have hvariable : (.addVariable payload, some (.variable ⟨2⟩)) ∈ log := by decide +kernel
  exact ⟨hfinish, document, hload, hget _ _ _ rfl hpayload, hget _ _ _ rfl hvariable,
    hget _ _ _ rfl hlist, hconstants _ _ _ _ hpayload hlist, hown _ _ _ _ hlog rfl⟩

end Panel
