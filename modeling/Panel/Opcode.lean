/-!
# Operation codes

Every operation of a document opens with one byte that fixes the layout of what follows.  `Opcode`
lists the operations there are; `code` and `ofCode?` relate them to bytes.
-/

namespace Panel

/-- The operations a document can be made of. -/
inductive Opcode where
  | integerValue
  | floatValue
  | textData
  | colorValue
  | listValue
  | namedVariable
  | integerExpression
  | floatExpression
  | textLookup
  | textFromNumber
  | rowStart
  | columnStart
  | boxStart
  | text
  | spacer
  | containerEnd
  | width
  | height
  | padding
  | background
  | border
  | visibility
  | touchAction
  | valueIntegerChange
  | valueFloatChange
  | valueStringChange
  | valueIntegerExpressionChange
  | hostAction
deriving DecidableEq, Repr

namespace Opcode

/-- What an operation is about. -/
inductive Group where
  | data
  | expression
  | layout
  | modifier
  | action
deriving DecidableEq, Repr

/-- The word for a group. -/
def Group.name : Group → String
  | data => "Data"
  | expression => "Expression"
  | layout => "Layout"
  | modifier => "Modifier"
  | action => "Action"

/-- The byte that opens an operation. -/
def code : Opcode → UInt8
  | integerValue => 0x01
  | floatValue => 0x02
  | textData => 0x03
  | colorValue => 0x04
  | listValue => 0x05
  | namedVariable => 0x06
  | integerExpression => 0x10
  | floatExpression => 0x11
  | textLookup => 0x12
  | textFromNumber => 0x13
  | rowStart => 0x20
  | columnStart => 0x21
  | boxStart => 0x22
  | text => 0x23
  | spacer => 0x24
  | containerEnd => 0x2F
  | width => 0x30
  | height => 0x31
  | padding => 0x32
  | background => 0x33
  | border => 0x34
  | visibility => 0x35
  | touchAction => 0x36
  | valueIntegerChange => 0x40
  | valueFloatChange => 0x41
  | valueStringChange => 0x42
  | valueIntegerExpressionChange => 0x43
  | hostAction => 0x44

/-- The operation that a byte opens. -/
def ofCode? : UInt8 → Option Opcode
  | 0x01 => some integerValue
  | 0x02 => some floatValue
  | 0x03 => some textData
  | 0x04 => some colorValue
  | 0x05 => some listValue
  | 0x06 => some namedVariable
  | 0x10 => some integerExpression
  | 0x11 => some floatExpression
  | 0x12 => some textLookup
  | 0x13 => some textFromNumber
  | 0x20 => some rowStart
  | 0x21 => some columnStart
  | 0x22 => some boxStart
  | 0x23 => some text
  | 0x24 => some spacer
  | 0x2F => some containerEnd
  | 0x30 => some width
  | 0x31 => some height
  | 0x32 => some padding
  | 0x33 => some background
  | 0x34 => some border
  | 0x35 => some visibility
  | 0x36 => some touchAction
  | 0x40 => some valueIntegerChange
  | 0x41 => some valueFloatChange
  | 0x42 => some valueStringChange
  | 0x43 => some valueIntegerExpressionChange
  | 0x44 => some hostAction
  | _ => none

/-- Reading the byte of an operation gives the operation back. -/
@[simp] theorem ofCode?_code (op : Opcode) : ofCode? op.code = some op := by
  cases op <;> rfl

/-- What an operation is about. -/
def group : Opcode → Group
  | integerValue | floatValue | textData | colorValue | listValue | namedVariable => .data
  | integerExpression | floatExpression | textLookup | textFromNumber => .expression
  | rowStart | columnStart | boxStart | text | spacer | containerEnd => .layout
  | width | height | padding | background | border | visibility | touchAction => .modifier
  | valueIntegerChange | valueFloatChange | valueStringChange | valueIntegerExpressionChange
  | hostAction => .action

/-- The word for an operation. -/
def name : Opcode → String
  | integerValue => "IntegerValue"
  | floatValue => "FloatValue"
  | textData => "TextData"
  | colorValue => "ColorValue"
  | listValue => "ListValue"
  | namedVariable => "NamedVariable"
  | integerExpression => "IntegerExpression"
  | floatExpression => "FloatExpression"
  | textLookup => "TextLookup"
  | textFromNumber => "TextFromNumber"
  | rowStart => "RowStart"
  | columnStart => "ColumnStart"
  | boxStart => "BoxStart"
  | text => "Text"
  | spacer => "Spacer"
  | containerEnd => "ContainerEnd"
  | width => "Width"
  | height => "Height"
  | padding => "Padding"
  | background => "Background"
  | border => "Border"
  | visibility => "Visibility"
  | touchAction => "TouchAction"
  | valueIntegerChange => "ValueIntegerChange"
  | valueFloatChange => "ValueFloatChange"
  | valueStringChange => "ValueStringChange"
  | valueIntegerExpressionChange => "ValueIntegerExpressionChange"
  | hostAction => "HostAction"

end Opcode

end Panel
