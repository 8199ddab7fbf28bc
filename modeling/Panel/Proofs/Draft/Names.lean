import Panel.Document
import Panel.Proofs.Content.Distinct
import Panel.Proofs.Draft.Call
import Panel.Proofs.Wire.Refused

/-!
# The names that a draft gives out

Whatever an author asks of a draft, whether it is refused or not, the draft holds operations of its
profile only, and gives out every name once.  So the finished document is never refused for an
operation that its profile does not have, nor for a name that is declared twice.
-/

namespace Panel

/-! ## Numbers in order -/

/-- Numbers as they are given out from one on, and the one after them. -/
structure Numbered (numbers : List UInt32) (next : UInt32) : Prop where
  inOrder : numbers = (List.range' 1 numbers.length).map UInt32.ofNat
  next : next = .ofNat (numbers.length + 1)

namespace Numbered

variable {numbers : List UInt32} {next : UInt32}

theorem nil : Numbered [] 1 := ⟨rfl, rfl⟩

theorem concat (h : Numbered numbers next) : Numbered (numbers ++ [next]) (next + 1) where
  inOrder := by
    rw [List.length_append, List.length_singleton, List.range'_concat, List.map_append,
      ← h.inOrder, h.next, Nat.one_mul, Nat.add_comm 1]
    rfl
  next := by
    rw [h.next, List.length_append, List.length_singleton,
      UInt32.ofNat_add (numbers.length + 1) 1]
    rfl

theorem nodup (h : Numbered numbers next) (hlength : numbers.length < 2 ^ 32) :
    numbers.Nodup := by
  rw [h.inOrder]
  refine List.Nodup.map_on (fun i hi j hj hij => ?_) List.nodup_range'
  rw [List.mem_range'_1] at hi hj
  have hi' : i < UInt32.size := Nat.lt_of_le_of_lt (by omega) hlength
  have hj' : j < UInt32.size := Nat.lt_of_le_of_lt (by omega) hlength
  have hnumbers := congrArg UInt32.toNat hij
  rwa [UInt32.toNat_ofNat_of_lt' hi', UInt32.toNat_ofNat_of_lt' hj'] at hnumbers

end Numbered

namespace Draft

variable {d e : Draft} {op : Operation} {call : DraftCall}

/-! ## What is true of every draft -/

/-- The draft holds operations of its profile, and every name that they declare is one that the
draft has given out. -/
structure Sound (d : Draft) : Prop where
  allowed : ∀ op ∈ d.operations, d.profile.allows op.opcode.code = true
  variableIds : d.operations.filterMap Operation.declaredVariable? = d.store.ids
  distinct : d.store.ids.Nodup
  nextId : d.store.nextId ≠ 0
  components : Numbered ((d.operations.filterMap Operation.declaredComponent?).map (·.number))
    d.nextComponent
  actions : Numbered ((d.operations.filterMap Operation.declaredAction?).map (·.number))
    d.nextAction

theorem Sound.new (profile : Profile) : (new profile).Sound where
  allowed := nofun
  variableIds := rfl
  distinct := .nil
  nextId := by
    show (1 : UInt32) ≠ 0
    decide
  components := .nil
  actions := .nil

theorem Sound.allowed_concat (h : d.Sound) (hallows : d.profile.allows op.opcode.code = true) :
    ∀ other ∈ d.operations ++ [op], d.profile.allows other.opcode.code = true := by
  rw [List.forall_mem_append, List.forall_mem_singleton]
  exact ⟨h.allowed, hallows⟩

theorem filterMap_concat_none {α β : Type} {f : α → Option β} {a : α} (ha : f a = none)
    (l : List α) : (l ++ [a]).filterMap f = l.filterMap f := by
  simp [ha]

theorem filterMap_concat_some {α β : Type} {f : α → Option β} {a : α} {b : β} (ha : f a = some b)
    (l : List α) : (l ++ [a]).filterMap f = l.filterMap f ++ [b] := by
  simp [ha]

/-- An operation that declares nothing is appended. -/
theorem Sound.push (h : d.Sound) (hallows : d.profile.allows op.opcode.code = true)
    (hvariable : op.declaredVariable? = none) (hcomponent : op.declaredComponent? = none)
    (haction : op.declaredAction? = none) :
    Sound { d with operations := d.operations ++ [op] } where
  allowed := h.allowed_concat hallows
  variableIds := (filterMap_concat_none hvariable _).trans h.variableIds
  distinct := h.distinct
  nextId := h.nextId
  components := by
    rw [filterMap_concat_none hcomponent]
    exact h.components
  actions := by
    rw [filterMap_concat_none haction]
    exact h.actions

theorem Sound.declaring (h : d.Sound) (hroom : d.store.size + 1 < 2 ^ 32) {slot : Slot}
    (hallows : d.profile.allows op.opcode.code = true) (hslot : slot.id = d.store.allocate.1)
    (hvariable : op.declaredVariable? = some d.store.allocate.1)
    (hcomponent : op.declaredComponent? = none) (haction : op.declaredAction? = none) :
    (d.declaring op slot).Sound where
  allowed := h.allowed_concat hallows
  variableIds := by
    show (d.operations ++ [op]).filterMap _ = (d.store.allocate.2.push slot).ids
    rw [filterMap_concat_some hvariable, h.variableIds, Store.ids_push, hslot]
    rfl
  distinct := by
    show (d.store.allocate.2.push slot).ids.Nodup
    rw [Store.ids_push, hslot, ← List.concat_eq_append, List.nodup_concat]
    exact ⟨Store.allocate_notMem h.nextId hroom, h.distinct⟩
  nextId := d.store.nextId_allocate
  components := by
    show Numbered (((d.operations ++ [op]).filterMap _).map _) _
    rw [filterMap_concat_none hcomponent]
    exact h.components
  actions := by
    show Numbered (((d.operations ++ [op]).filterMap _).map _) _
    rw [filterMap_concat_none haction]
    exact h.actions

theorem Sound.component (h : d.Sound) {kind : ComponentKind}
    (hallows : d.profile.allows kind.opcode.code = true) :
    Sound { d with
      operations := d.operations ++ [.component ⟨d.nextComponent⟩ kind]
      nextComponent := d.nextComponent + 1 } where
  allowed := h.allowed_concat hallows
  variableIds := (filterMap_concat_none rfl _).trans h.variableIds
  distinct := h.distinct
  nextId := h.nextId
  components := by
    have hdeclared : (Operation.component ⟨d.nextComponent⟩ kind).declaredComponent? =
      some ⟨d.nextComponent⟩ := rfl
    rw [filterMap_concat_some hdeclared, List.map_append]
    exact h.components.concat
  actions := by
    rw [filterMap_concat_none rfl]
    exact h.actions

theorem Sound.action (h : d.Sound) {effect : Effect}
    (hallows : d.profile.allows effect.opcode.code = true) :
    Sound { d with
      operations := d.operations ++ [.action ⟨⟨d.nextAction⟩, effect⟩]
      nextAction := d.nextAction + 1 } where
  allowed := h.allowed_concat hallows
  variableIds := (filterMap_concat_none rfl _).trans h.variableIds
  distinct := h.distinct
  nextId := h.nextId
  components := by
    rw [filterMap_concat_none rfl]
    exact h.components
  actions := by
    have hdeclared : (Operation.action ⟨⟨d.nextAction⟩, effect⟩).declaredAction? =
      some ⟨d.nextAction⟩ := rfl
    rw [filterMap_concat_some hdeclared, List.map_append]
    exact h.actions.concat

/-! ## Runs -/

theorem Sound.size_le (h : d.Sound) : d.store.size ≤ d.operations.length := by
  have hlength : d.store.ids.length = d.store.size := List.length_map _
  rw [← hlength, ← h.variableIds]
  exact List.length_filterMap_le _ _

/-- What a call leads to is sound, and is longer by one operation at most. -/
theorem Sound.request {answer : DraftAnswer} (h : d.Sound)
    (hroom : d.operations.length + 1 < 2 ^ 32) (hrequest : d.request call = .ok (answer, e)) :
    e.Sound ∧ e.profile = d.profile ∧ e.operations.length ≤ d.operations.length + 1 := by
  have hsize : d.store.size + 1 < 2 ^ 32 := by
    have hle := h.size_le
    omega
  have hlonger (op : Operation) : (d.operations ++ [op]).length ≤ d.operations.length + 1 := by
    rw [List.length_append, List.length_singleton]
  cases call with
  | constant value =>
      obtain ⟨⟨id, _⟩, hconstant, ⟨⟩⟩ := Result.map_eq_ok.1 hrequest
      obtain ⟨hallows, ⟨-, rfl⟩ | ⟨-, rfl, rfl⟩⟩ := constant_eq_ok.1 hconstant
      · exact ⟨h, rfl, Nat.le_succ _⟩
      · exact ⟨h.declaring hsize hallows rfl rfl rfl rfl, rfl, hlonger _⟩
  | addVariable value =>
      obtain ⟨⟨id, _⟩, hadd, ⟨⟩⟩ := Result.map_eq_ok.1 hrequest
      obtain ⟨hallows, rfl, rfl⟩ := addVariable_eq_ok.1 hadd
      exact ⟨h.declaring hsize hallows rfl rfl rfl rfl, rfl, hlonger _⟩
  | derive recipe =>
      obtain ⟨⟨id, _⟩, hderive, ⟨⟩⟩ := Result.map_eq_ok.1 hrequest
      obtain ⟨hallows, rfl, rfl⟩ := derive_eq_ok.1 hderive
      exact ⟨h.declaring hsize hallows rfl rfl rfl rfl, rfl, hlonger _⟩
  | name id text =>
      obtain ⟨_, hpush, ⟨⟩⟩ := Result.map_eq_ok.1 hrequest
      obtain ⟨hallows, rfl⟩ := push_eq_ok.1 hpush
      exact ⟨h.push hallows rfl rfl rfl, rfl, hlonger _⟩
  | component kind =>
      obtain ⟨⟨id, _⟩, hcomponent, ⟨⟩⟩ := Result.map_eq_ok.1 hrequest
      obtain ⟨hallows, rfl, rfl⟩ := component_eq_ok.1 hcomponent
      exact ⟨h.component hallows, rfl, hlonger _⟩
  | endContainer =>
      obtain ⟨_, hpush, ⟨⟩⟩ := Result.map_eq_ok.1 hrequest
      obtain ⟨hallows, rfl⟩ := push_eq_ok.1 hpush
      exact ⟨h.push hallows rfl rfl rfl, rfl, hlonger _⟩
  | modifier m =>
      obtain ⟨_, hpush, ⟨⟩⟩ := Result.map_eq_ok.1 hrequest
      obtain ⟨hallows, rfl⟩ := push_eq_ok.1 hpush
      exact ⟨h.push hallows rfl rfl rfl, rfl, hlonger _⟩
  | action effect =>
      obtain ⟨⟨id, _⟩, haction, ⟨⟩⟩ := Result.map_eq_ok.1 hrequest
      obtain ⟨hallows, rfl, rfl⟩ := action_eq_ok.1 haction
      exact ⟨h.action hallows, rfl, hlonger _⟩

/-- Calls in any order, refused or not, keep a draft sound, as long as there are names left. -/
theorem sound_run (profile : Profile) {calls : List DraftCall} (hcalls : calls.length < 2 ^ 32) :
    let d := (Draft.new profile).run calls
    d.Sound ∧ d.profile = profile ∧ d.operations.length ≤ calls.length := by
  induction calls using List.reverseRecOn with
  | nil => exact ⟨.new profile, rfl, Nat.le_refl 0⟩
  | append_singleton calls call ih =>
      rw [List.length_append, List.length_singleton] at hcalls ⊢
      obtain ⟨hsound, hprofile, hlength⟩ := ih (by omega)
      rw [run_concat]
      rcases ((Draft.new profile).run calls).perform_cases call with hrefused | ⟨answer, haccepted⟩
      · rw [hrefused]
        exact ⟨hsound, hprofile, by omega⟩
      · have hnext := hsound.request (by omega) haccepted
        exact ⟨hnext.1, hnext.2.1.trans hprofile, by omega⟩

/-! ## Names -/

theorem Sound.componentIds_nodup (h : d.Sound) (hlength : d.operations.length < 2 ^ 32) :
    (d.operations.filterMap Operation.declaredComponent?).Nodup := by
  apply List.Nodup.of_map
  apply h.components.nodup
  rw [List.length_map]
  exact Nat.lt_of_le_of_lt (List.length_filterMap_le _ _) hlength

theorem Sound.actionIds_nodup (h : d.Sound) (hlength : d.operations.length < 2 ^ 32) :
    (d.operations.filterMap Operation.declaredAction?).Nodup := by
  apply List.Nodup.of_map
  apply h.actions.nodup
  rw [List.length_map]
  exact Nat.lt_of_le_of_lt (List.length_filterMap_le _ _) hlength

end Draft

/-- A document that operations with different names were written into fails to load for other
reasons than a name that is declared twice. -/
theorem Document.not_isDuplicate_of_load {profile : Profile} {operations : List Operation}
    {bytes : List UInt8} {config : Config} {error : DecodeError}
    (hbuiltin : profile ∈ Profile.builtin)
    (hencode : Wire.encodeDocument operations profile = .ok bytes)
    (hvariables : (operations.filterMap Operation.declaredVariable?).Nodup)
    (hcomponents : (operations.filterMap Operation.declaredComponent?).Nodup)
    (hactions : (operations.filterMap Operation.declaredAction?).Nodup)
    (h : load bytes config = .error error) : error.isDuplicate = false := by
  rcases Wire.decodeDocument_of_encodeDocument hbuiltin hencode config with
    ⟨header, hdecode⟩ | hdecode | hdecode
  · rw [load, hdecode] at h
    change (Content.ofOperations operations config.maxDepth >>= _) = _ at h
    rcases Result.bind_eq_error.1 h with h | ⟨content, -, h⟩
    · exact Content.not_isDuplicate_of_ofOperations hvariables hcomponents hactions h
    · contradiction
  · rw [load, hdecode] at h
    cases h
    rfl
  · rw [load, hdecode] at h
    cases h
    rfl

namespace Draft

/-- Whatever an author has asked of a draft, the draft has operations of its profile only, gives out
no name twice and stays as it is when it refuses something.  What is made of it in the end is
refused neither for an operation that its profile does not have nor for a name declared twice. -/
theorem names_distinct {profile : Profile} (hbuiltin : profile ∈ Profile.builtin)
    {calls : List DraftCall} (hcalls : calls.length < 2 ^ 32) :
    let d := (Draft.new profile).run calls
    (∀ op ∈ d.operations, profile.allows op.opcode.code = true) ∧
    (∀ call error e, DraftCall.write call d = .error error e → e = d) ∧
    (d.operations.filterMap Operation.declaredVariable?).Nodup ∧
    (d.operations.filterMap Operation.declaredComponent?).Nodup ∧
    (d.operations.filterMap Operation.declaredAction?).Nodup ∧
    (∀ code name, d.finish ≠ .error (.unsupportedOperation code name)) ∧
    (∀ maxDepth error, Content.ofOperations d.operations maxDepth = .error error →
      error.isDuplicate = false) ∧
    ∀ bytes config error, d.finish = .ok bytes → Document.load bytes config = .error error →
      error.isDuplicate = false := by
  intro d
  obtain ⟨hsound, hprofile, hlength⟩ := sound_run profile hcalls
  have hoperations : d.operations.length < 2 ^ 32 := Nat.lt_of_le_of_lt hlength hcalls
  have hallowed := hsound.allowed
  have hvariables : (d.operations.filterMap Operation.declaredVariable?).Nodup :=
    hsound.variableIds ▸ hsound.distinct
  have hcomponents := hsound.componentIds_nodup hoperations
  have hactions := hsound.actionIds_nodup hoperations
  rw [hprofile] at hallowed
  refine ⟨hallowed, fun _ _ _ => eq_of_write_error, hvariables, hcomponents, hactions, ?_, ?_, ?_⟩
  · intro code name hfinish
    rw [finish, hprofile] at hfinish
    exact Bool.false_ne_true (Wire.isOverflow_of_encodeDocument hallowed hfinish)
  · intro maxDepth error
    exact Content.not_isDuplicate_of_ofOperations hvariables hcomponents hactions
  · intro bytes config error hfinish
    rw [finish, hprofile] at hfinish
    exact Document.not_isDuplicate_of_load hbuiltin hfinish hvariables hcomponents hactions

/-- An author who asks for more than the oldest profile has: for a constant twice, for a derived
variable, for a name that the host knows and for an action that asks the host. -/
theorem names_distinct_core1 :
    let calls : List DraftCall := [.constant (.int 5), .constant (.int 5), .addVariable (.int 5),
      .derive (.textFromNumber ⟨2⟩ 0), .name ⟨2⟩ "n", .action (.host 7),
      .action (.setInteger ⟨2⟩ 1), .component (.box ⟨.start, .start⟩),
      .modifier (.touchAction .down [⟨1⟩]), .component .spacer, .endContainer]
    let d := (Draft.new .core1).run calls
    d.operations = [.value ⟨1⟩ (.int 5), .value ⟨2⟩ (.int 5), .action ⟨⟨1⟩, .setInteger ⟨2⟩ 1⟩,
      .component ⟨1⟩ (.box ⟨.start, .start⟩), .modifier (.touchAction .down [⟨1⟩]),
      .component ⟨2⟩ .spacer, .containerEnd] ∧
    (d.operations.filterMap Operation.declaredVariable?).Nodup ∧
    (∀ code name, d.finish ≠ .error (.unsupportedOperation code name)) ∧
    ∀ maxDepth error, Content.ofOperations d.operations maxDepth = .error error →
      error.isDuplicate = false := by
  intro calls d
  have hbuiltin : Profile.core1 ∈ Profile.builtin := by decide
  have hcalls : calls.length < 2 ^ 32 := by decide
  obtain ⟨-, -, hvariables, -, -, hfinish, hassembly, -⟩ := names_distinct hbuiltin hcalls
  exact ⟨by decide +kernel, hvariables, hfinish, hassembly⟩

end Draft

end Panel
