import Panel.Guarded.Cursor
import Panel.Wire.Document

/-!
# Documents through a cursor

The reader of documents, with every byte taken through a cursor and every set of operations looked
up in the word that holds its bit.

* `Guarded.operation` reads one operation, `decodeDocument?` a whole buffer.
-/

namespace Panel

/-- One of the four words of 64 bits that a set of bytes is kept in. -/
def OpcodeSet.word? (s : OpcodeSet) (i : Nat) : Option (BitVec 64) :=
  if i < 4 then some (s.bits.extractLsb' (64 * i) 64) else none

/-- Whether a byte is a member, by its bit in its word. -/
def OpcodeSet.contains? (s : OpcodeSet) (b : UInt8) : Option Bool := do
  let word ← s.word? (b.toNat / 64)
  return word.getLsbD (b.toNat % 64)

/-- Whether some words of `t` have no bit that those of `s` have not. -/
def OpcodeSet.covers? (s t : OpcodeSet) : List Nat → Option Bool
  | [] => some true
  | i :: rest => do
    let word ← s.word? i
    let other ← t.word? i
    if other &&& ~~~word ≠ 0 then return false else s.covers? t rest

/-- Whether every member of `t` is a member of `s`, word by word. -/
def OpcodeSet.isSuperset? (s t : OpcodeSet) : Option Bool := s.covers? t (List.range 4)

/-- Whether documents of a profile may contain an operation. -/
def Profile.allows? (p : Profile) (code : UInt8) : Option Bool := p.opcodes.contains? code

/-- Whether a player with profile `p` plays documents of profile `q`. -/
def Profile.accepts? (p q : Profile) : Option Bool := p.opcodes.isSuperset? q.opcodes

namespace Wire

namespace Guarded

/-! ## Expressions -/

/-- A node of an expression. -/
def token : Guarded Token := do
  let start ← offset
  match ← byte with
  | 0 => return .int (← int32)
  | 1 => return .float (← single)
  | 2 => return .reference (← variableId)
  | 3 =>
    match BinaryOp.ofCode? (← byte) with
    | some op => return .binary op
    | none => throw (.malformedExpression start)
  | 4 =>
    match UnaryOp.ofCode? (← byte) with
    | some op => return .unary op
    | none => throw (.malformedExpression start)
  | _ => throw (.malformedExpression start)

/-- A number of nodes, each of which takes its operands from the stack. -/
def tokens : Nat → List Expression → Guarded (List Expression)
  | 0, stack => return stack
  | count + 1, stack => do
    let start ← offset
    match (← token).push? stack with
    | some stack => tokens count stack
    | none => throw (.malformedExpression start)

/-- An expression. -/
def expression : Guarded Expression := do
  let start ← offset
  let count ← word16
  if count = 0 || maxTokens < count.toNat then
    throw (.malformedExpression start)
  match ← tokens count.toNat [] with
  | [e] => return e
  | _ => throw (.malformedExpression start)

/-! ## Operands -/

/-- The layout of a row or column. -/
def linear : Guarded LinearLayout :=
  return ⟨← coded Arrangement.ofCode? "arrangement", ← coded Alignment.ofCode? "alignment",
    ← single⟩

/-- The alignments of a box. -/
def box : Guarded BoxLayout :=
  return ⟨← coded Alignment.ofCode? "horizontal alignment",
    ← coded Alignment.ofCode? "vertical alignment"⟩

/-- The content of a piece of text. -/
def textContent : Guarded TextContent :=
  return ⟨← variableId, ← variableId, ← single, ← word16, ← coded flagOfCode? "italic flag"⟩

/-- A requested size.  It is read whole before its kind is looked at. -/
def dimension : Guarded Dimension := do
  let start ← offset
  let code ← byte
  let units ← single
  match Dimension.ofCode? code units with
  | some d => return d
  | none => throw (.invalidOperand start "dimension kind")

/-- The offset behind another one. -/
def after (start : Nat) : Guarded Nat := do
  let c ← get
  c.overflow.sum? start 1

/-- The source of a visibility.  It is read whole before any of it is looked at. -/
def visibility : Guarded VisibilitySource := do
  let start ← offset
  let source ← byte
  let word ← word32
  match source with
  | 0 =>
    -- the offset of the word is found whether it is reported or not
    let second ← after start
    match Read.visibilityOfWord? word with
    | some visibility => return .literal visibility
    | none => throw (.invalidOperand second "visibility literal")
  | 1 => return .reference ⟨word⟩
  | _ => throw (.invalidOperand start "visibility source")

/-- A declared action whose effect is read by `effect`. -/
def action (effect : Guarded Effect) : Guarded Operation :=
  return .action ⟨← actionId, ← effect⟩

/-- The operands of an operation. -/
def operands : Opcode → Guarded Operation
  | .integerValue => return .value (← variableId) (.int (← int32))
  | .floatValue => return .value (← variableId) (.float (← single))
  | .textData => return .value (← variableId) (.text (← text))
  | .colorValue => return .value (← variableId) (.color (.ofWord (← word32)))
  | .listValue => return .value (← variableId) (.list ((← idList).map VariableId.mk))
  | .namedVariable => return .name (← variableId) (← text)
  | .integerExpression => return .derived ⟨← variableId, .integer (← expression)⟩
  | .floatExpression => return .derived ⟨← variableId, .float (← expression)⟩
  | .textLookup => return .derived ⟨← variableId, .textLookup (← variableId) (← variableId)⟩
  | .textFromNumber => return .derived ⟨← variableId, .textFromNumber (← variableId) (← byte)⟩
  | .rowStart => return .component (← componentId) (.row (← linear))
  | .columnStart => return .component (← componentId) (.column (← linear))
  | .boxStart => return .component (← componentId) (.box (← box))
  | .text => return .component (← componentId) (.text (← textContent))
  | .spacer => return .component (← componentId) .spacer
  | .containerEnd => return .containerEnd
  | .width => return .modifier (.width (← dimension))
  | .height => return .modifier (.height (← dimension))
  | .padding => return .modifier (.padding ⟨← single, ← single, ← single, ← single⟩)
  | .background => return .modifier (.background (← variableId))
  | .border => return .modifier (.border (← single) (← variableId))
  | .visibility => return .modifier (.visibility (← visibility))
  | .touchAction =>
    return .modifier (.touchAction (← coded TouchTrigger.ofCode? "touch trigger")
      ((← idList).map ActionId.mk))
  | .valueIntegerChange => action do return .setInteger (← variableId) (← int32)
  | .valueFloatChange => action do return .setFloat (← variableId) (← single)
  | .valueStringChange => action do return .copyText (← variableId) (← variableId)
  | .valueIntegerExpressionChange => action do return .copyInteger (← variableId) (← variableId)
  | .hostAction => action do return .host (← word32)

/-! ## Operations -/

/-- The operands of the operation that a byte stands for, the byte having been read just before. -/
def operandsOf (code : UInt8) : Guarded Operation := do
  let next ← offset
  match Opcode.ofCode? code with
  | some op => operands op
  | none => throw (.unknownOpcode code (next - 1))

/-- An operation, if a profile allows it. -/
def operation (profile : Profile) : Guarded Operation := do
  let start ← offset
  let code ← byte
  match Opcode.ofCode? code with
  | none => throw (.unknownOpcode code start)
  | some _ =>
    if ← profile.allows? code then operandsOf code
    else throw (.unsupportedOperation code start)

/-- Operations up to the end of the buffer, of which no more than `maximum` are left to the reader.
There is no answer if they take more than a number of steps. -/
def operations (profile : Profile) (limit : Nat) :
    (steps maximum : Nat) → Guarded (List Operation)
  | 0, _ => (none : Option (List Operation))
  | steps + 1, maximum => do
    if ← isEmpty then
      return []
    match maximum with
    | 0 => throw (.tooManyOperations limit)
    | maximum + 1 =>
      let op ← operation profile
      return op :: (← operations profile limit steps maximum)

end Guarded

/-! ## Documents -/

/-- The header that eight bytes spell, each taken from its place. -/
def Header.ofPlaces? (raw : List UInt8) : Option Header :=
  return ⟨.ofNat (ofBytes [← raw[0]?, ← raw[1]?]), .ofNat (ofBytes [← raw[2]?, ← raw[3]?]),
    .ofNat (ofBytes [← raw[4]?, ← raw[5]?, ← raw[6]?, ← raw[7]?])⟩

/-- The header at the front of a buffer, with what follows it. -/
def Header.read? (bytes : List UInt8) : Checked DecodeError (Header × List UInt8) := do
  if bytes.length < size then
    throw (.missingHeader bytes.length)
  let raw ← slice? bytes 0 size
  let header ← ofPlaces? raw
  let body ← slice? bytes size bytes.length
  return (header, body)

/-- Check what a header declares against what a player can do. -/
def Header.profile? (config : Config) (header : Header) : Checked DecodeError Profile :=
  if Profile.maxApiLevel < header.apiLevel then
    throw (.unsupportedApiLevel header.apiLevel Profile.maxApiLevel)
  else match Profile.byId? header.profileId with
    | none => throw (.unknownProfile header.profileId)
    | some profile =>
      if header.apiLevel < profile.apiLevel then
        throw (.apiLevelBelowProfile header.apiLevel profile.name profile.apiLevel)
      else do
        if ← config.profile.accepts? profile then
          return profile
        else
          throw (.incompatibleProfile profile.name config.profile.name)

/-- The operations that fill a buffer. -/
def readOperations? (profile : Profile) (maximum : Nat) (body : List UInt8) :
    Checked DecodeError (List Operation) := do
  let read := Guarded.operations profile maximum (body.length + 1) maximum
  let (result, _) ← read ⟨body, 0, .ofNat Header.size, .stops⟩
  .of result

/-- What a buffer holds, for a player with the given limits. -/
def decodeDocument? (bytes : List UInt8) (config : Config) :
    Checked DecodeError DecodedDocument := do
  let (header, body) ← Header.read? bytes
  let profile ← header.profile? config
  if body.length ≠ header.length.toNat then
    throw (.lengthMismatch header.length body.length)
  return ⟨header, profile, ← readOperations? profile config.maxOperations body⟩

end Wire

end Panel
