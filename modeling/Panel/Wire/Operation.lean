import Panel.Operation
import Panel.Profile
import Panel.Wire.Encoding
import Panel.Wire.Reader

/-!
# Operations as bytes

One byte tells the operation, and its operands follow in a layout that this byte fixes.  There are
no lengths around operands: an operation ends where its last operand ends.

* `Operation.encoding` writes an operation, `Read.operands` reads what follows the first byte;
* `Operation.encodingUnder` and `Read.operation` also check a profile.
-/

namespace Panel

open Wire

/-! ## Expressions -/

/-- The largest number of nodes of an expression. -/
def Wire.maxTokens : Nat := 1024

/-- A node: one byte for its kind, then what it holds. -/
def Token.encoding : Token → Encoding
  | .int value => .byte 0 ++ .int32 value
  | .float value => .byte 1 ++ .single value
  | .reference id => .byte 2 ++ .variableId id
  | .binary op => .byte 3 ++ .byte op.code
  | .unary op => .byte 4 ++ .byte op.code

/-- An expression: the number of its nodes, then the nodes in postfix order. -/
def Expression.encoding (e : Expression) : Encoding :=
  if e.nodeCount ≤ maxTokens then
    .word16 (.ofNat e.nodeCount) ++ .concat (e.tokens.map Token.encoding)
  else
    .fail (.tooManyEntries "expression" e.nodeCount)

namespace Wire.Read

/-- A node.  A failure of its kind or of its operator reports on its first byte. -/
def token : Read Token := do
  let start ← offset
  match ← byte with
  | 0 => return .int (← int32)
  | 1 => return .float (← single)
  | 2 => return .reference (← variableId)
  | 3 =>
    match BinaryOp.ofCode? (← byte) with
    | some op => return .binary op
    | none => throw (.malformedExpression start)
  | 4 =>
    match UnaryOp.ofCode? (← byte) with
    | some op => return .unary op
    | none => throw (.malformedExpression start)
  | _ => throw (.malformedExpression start)

/-- A number of nodes, each of which takes its operands from the stack.  A failure for want of
operands reports on the first byte of the node. -/
def tokens : Nat → List Expression → Read (List Expression)
  | 0, stack => return stack
  | count + 1, stack => do
    let start ← offset
    match (← token).push? stack with
    | some stack => tokens count stack
    | none => throw (.malformedExpression start)

/-- An expression.  A failure of the whole reports on its count. -/
def expression : Read Expression := do
  let start ← offset
  let count ← word16
  if count = 0 || maxTokens < count.toNat then
    throw (.malformedExpression start)
  match ← tokens count.toNat [] with
  | [e] => return e
  | _ => throw (.malformedExpression start)

end Wire.Read

/-! ## Operands -/

/-- A flag: one byte, one for true. -/
def Wire.flagEncoding (flag : Bool) : Encoding := .byte (if flag then 1 else 0)

/-- The flag that a byte stands for. -/
def Wire.flagOfCode? : UInt8 → Option Bool
  | 0 => some false
  | 1 => some true
  | _ => none

/-- The layout of a row or column. -/
def LinearLayout.encoding (layout : LinearLayout) : Encoding :=
  .byte layout.arrangement.code ++ .byte layout.alignment.code ++ .single layout.spacing

/-- A requested size: one byte for its kind, then the units, zero where there are none. -/
def Dimension.encoding (d : Dimension) : Encoding := .byte d.code ++ .single d.units

/-- The source of a visibility: one byte for its kind, then the visibility or the variable. -/
def VisibilitySource.encoding : VisibilitySource → Encoding
  | .literal visibility => .byte 0 ++ .word32 visibility.code.toUInt32
  | .reference id => .byte 1 ++ .variableId id

/-- What a value is declared with. -/
def Value.encoding : Value → Encoding
  | .int value => .int32 value
  | .float value => .single value
  | .text value => .text value
  | .color value => .word32 value.toWord
  | .list items => .idList "list" (items.map (·.number))

/-- What a derived variable is declared with. -/
def Recipe.encoding : Recipe → Encoding
  | .integer e => e.encoding
  | .float e => e.encoding
  | .textLookup list index => .variableId list ++ .variableId index
  | .textFromNumber source places => .variableId source ++ .byte places

/-- What a component is declared with. -/
def ComponentKind.encoding : ComponentKind → Encoding
  | .row layout => layout.encoding
  | .column layout => layout.encoding
  | .box layout => .byte layout.horizontal.code ++ .byte layout.vertical.code
  | .text content =>
    .variableId content.text ++ .variableId content.color ++ .single content.fontSize ++
      .word16 content.weight ++ flagEncoding content.italic
  | .spacer => .empty

/-- The operands of a modifier. -/
def Modifier.encoding : Modifier → Encoding
  | .width d => d.encoding
  | .height d => d.encoding
  | .padding p => .single p.left ++ .single p.top ++ .single p.right ++ .single p.bottom
  | .background color => .variableId color
  | .border thickness color => .single thickness ++ .variableId color
  | .visibility source => source.encoding
  | .touchAction trigger actions =>
    .byte trigger.code ++ .idList "touch action" (actions.map (·.number))

/-- What an action is declared with. -/
def Effect.encoding : Effect → Encoding
  | .setInteger target value => .variableId target ++ .int32 value
  | .setFloat target value => .variableId target ++ .single value
  | .copyText target text => .variableId target ++ .variableId text
  | .copyInteger target expression => .variableId target ++ .variableId expression
  | .host request => .word32 request

/-- The operands of an operation. -/
def Operation.operandsEncoding : Operation → Encoding
  | .value id v => .variableId id ++ v.encoding
  | .name id text => .variableId id ++ .text text
  | .derived d => .variableId d.id ++ d.recipe.encoding
  | .component id kind => .componentId id ++ kind.encoding
  | .containerEnd => .empty
  | .modifier m => m.encoding
  | .action a => .actionId a.id ++ a.effect.encoding

/-- An operation: its code, then its operands. -/
def Operation.encoding (op : Operation) : Encoding := .byte op.opcode.code ++ op.operandsEncoding

/-- An operation, if a profile allows it. -/
def Operation.encodingUnder (profile : Profile) (op : Operation) : Encoding :=
  if profile.allows op.opcode.code then op.encoding
  else .fail (.unsupportedOperation op.opcode.code profile.name)

namespace Wire.Read

/-- The layout of a row or column. -/
def linear : Read LinearLayout :=
  return ⟨← coded Arrangement.ofCode? "arrangement", ← coded Alignment.ofCode? "alignment",
    ← single⟩

/-- The alignments of a box. -/
def box : Read BoxLayout :=
  return ⟨← coded Alignment.ofCode? "horizontal alignment",
    ← coded Alignment.ofCode? "vertical alignment"⟩

/-- The content of a piece of text. -/
def textContent : Read TextContent :=
  return ⟨← variableId, ← variableId, ← single, ← word16, ← coded flagOfCode? "italic flag"⟩

/-- A requested size.  It is read whole before its kind is looked at. -/
def dimension : Read Dimension := do
  let start ← offset
  let code ← byte
  let units ← single
  match Dimension.ofCode? code units with
  | some d => return d
  | none => throw (.invalidOperand start "dimension kind")

/-- The visibility that a four-byte number stands for. -/
def visibilityOfWord? (word : UInt32) : Option Visibility :=
  if word < 256 then Visibility.ofCode? word.toUInt8 else none

/-- The source of a visibility.  It is read whole before any of it is looked at. -/
def visibility : Read VisibilitySource := do
  let start ← offset
  let source ← byte
  let word ← word32
  match source with
  | 0 =>
    match visibilityOfWord? word with
    | some visibility => return .literal visibility
    | none => throw (.invalidOperand (start + 1) "visibility literal")
  | 1 => return .reference ⟨word⟩
  | _ => throw (.invalidOperand start "visibility source")

/-- A declared action whose effect is read by `effect`. -/
def action (effect : Read Effect) : Read Operation :=
  return .action ⟨← actionId, ← effect⟩

/-- The operands of an operation. -/
def operands : Opcode → Read Operation
  | .integerValue => return .value (← variableId) (.int (← int32))
  | .floatValue => return .value (← variableId) (.float (← single))
  | .textData => return .value (← variableId) (.text (← text))
  | .colorValue => return .value (← variableId) (.color (.ofWord (← word32)))
  | .listValue => return .value (← variableId) (.list ((← idList).map VariableId.mk))
  | .namedVariable => return .name (← variableId) (← text)
  | .integerExpression => return .derived ⟨← variableId, .integer (← expression)⟩
  | .floatExpression => return .derived ⟨← variableId, .float (← expression)⟩
  | .textLookup => return .derived ⟨← variableId, .textLookup (← variableId) (← variableId)⟩
  | .textFromNumber => return .derived ⟨← variableId, .textFromNumber (← variableId) (← byte)⟩
  | .rowStart => return .component (← componentId) (.row (← linear))
  | .columnStart => return .component (← componentId) (.column (← linear))
  | .boxStart => return .component (← componentId) (.box (← box))
  | .text => return .component (← componentId) (.text (← textContent))
  | .spacer => return .component (← componentId) .spacer
  | .containerEnd => return .containerEnd
  | .width => return .modifier (.width (← dimension))
  | .height => return .modifier (.height (← dimension))
  | .padding => return .modifier (.padding ⟨← single, ← single, ← single, ← single⟩)
  | .background => return .modifier (.background (← variableId))
  | .border => return .modifier (.border (← single) (← variableId))
  | .visibility => return .modifier (.visibility (← visibility))
  | .touchAction =>
    return .modifier (.touchAction (← coded TouchTrigger.ofCode? "touch trigger")
      ((← idList).map ActionId.mk))
  | .valueIntegerChange => action do return .setInteger (← variableId) (← int32)
  | .valueFloatChange => action do return .setFloat (← variableId) (← single)
  | .valueStringChange => action do return .copyText (← variableId) (← variableId)
  | .valueIntegerExpressionChange => action do return .copyInteger (← variableId) (← variableId)
  | .hostAction => action do return .host (← word32)

/-- The operands of the operation that a byte stands for, the byte having been read just before. -/
def operandsOf (code : UInt8) : Read Operation := do
  match Opcode.ofCode? code with
  | some op => operands op
  | none => throw (.unknownOpcode code ((← offset) - 1))

/-- An operation, if a profile allows it. -/
def operation (profile : Profile) : Read Operation := do
  let start ← offset
  let code ← byte
  match Opcode.ofCode? code with
  | none => throw (.unknownOpcode code start)
  | some op =>
    if profile.allows code then operands op
    else throw (.unsupportedOperation code start)

end Wire.Read

end Panel
