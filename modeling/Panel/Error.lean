import Panel.Identifier
import Panel.Text.Hex
import Panel.Text.Quoted
import Panel.Value

/-!
# Failures

Three kinds of failure, one for each stage in which they arise: a document that cannot be decoded
never exists, an operation that cannot be encoded is refused, and a variable that cannot be read or
written leaves the store as it was.  Each failure is a cause; `name` names it and `message` words
it.
-/

namespace Panel

/-! ## Decoding -/

/-- What is wrong with the shape of a component tree. -/
inductive TreeFault where
  | secondRoot
  | leafRoot
  | danglingModifiers
  | unopenedEnd
  | unclosedContainer
  | noRoot
deriving DecidableEq, Repr

/-- The words for a fault. -/
def TreeFault.message : TreeFault → String
  | secondRoot => "more than one root component"
  | leafRoot => "root component must be a container"
  | danglingModifiers => "modifiers not followed by a component"
  | unopenedEnd => "container end without open container"
  | unclosedContainer => "unclosed container"
  | noRoot => "document has no root component"

/-- Why a buffer is not a document.  Offsets count bytes from the start of the buffer. -/
inductive DecodeError where
  | missingHeader (length : Nat)
  | unsupportedApiLevel (declared maximum : UInt16)
  | unknownProfile (id : UInt16)
  | apiLevelBelowProfile (declared : UInt16) (profile : String) (required : UInt16)
  | incompatibleProfile (document runtime : String)
  | lengthMismatch (declared : UInt32) (actual : Nat)
  | unknownOpcode (opcode : UInt8) (offset : Nat)
  | unsupportedOperation (opcode : UInt8) (offset : Nat)
  | truncated (offset needed : Nat)
  | invalidOperand (offset : Nat) (reason : String)
  | malformedExpression (offset : Nat)
  | malformedTree (fault : TreeFault)
  | nestingTooDeep (maximum : Nat)
  | tooManyOperations (maximum : Nat)
  | duplicateVariable (id : VariableId)
  | duplicateComponent (id : ComponentId)
  | duplicateAction (id : ActionId)
  | unknownAction (id : ActionId)
deriving DecidableEq, Repr

/-- The name of the cause of a decoding failure. -/
def DecodeError.name : DecodeError → String
  | missingHeader .. => "MissingHeader"
  | unsupportedApiLevel .. => "UnsupportedApiLevel"
  | unknownProfile .. => "UnknownProfile"
  | apiLevelBelowProfile .. => "ApiLevelBelowProfile"
  | incompatibleProfile .. => "IncompatibleProfile"
  | lengthMismatch .. => "LengthMismatch"
  | unknownOpcode .. => "UnknownOpcode"
  | unsupportedOperation .. => "UnsupportedOperation"
  | truncated .. => "Truncated"
  | invalidOperand .. => "InvalidOperand"
  | malformedExpression .. => "MalformedExpression"
  | malformedTree .. => "MalformedTree"
  | nestingTooDeep .. => "NestingTooDeep"
  | tooManyOperations .. => "TooManyOperations"
  | duplicateVariable .. => "DuplicateVariable"
  | duplicateComponent .. => "DuplicateComponent"
  | duplicateAction .. => "DuplicateAction"
  | unknownAction .. => "UnknownAction"

/-- The words for a decoding failure. -/
def DecodeError.message : DecodeError → String
  | missingHeader length => s!"buffer too short for header: {length} bytes"
  | unsupportedApiLevel declared maximum =>
    s!"declared api level {declared} exceeds supported maximum {maximum}"
  | unknownProfile id => s!"unknown profile id {id}"
  | apiLevelBelowProfile declared profile required =>
    s!"api level {declared} is below the level {required} of profile '{profile}'"
  | incompatibleProfile document runtime =>
    s!"document profile '{document}' is not supported by runtime profile '{runtime}'"
  | lengthMismatch declared actual =>
    s!"header declares {declared} bytes of operations but {actual} follow"
  | unknownOpcode opcode offset =>
    s!"unknown opcode 0x{Text.hexByte opcode} at offset {offset}"
  | unsupportedOperation opcode offset =>
    s!"opcode 0x{Text.hexByte opcode} at offset {offset} is not allowed by the document profile"
  | truncated offset needed =>
    s!"truncated operand at offset {offset}: {needed} more bytes needed"
  | invalidOperand offset reason => s!"invalid operand at offset {offset}: {reason}"
  | malformedExpression offset => s!"malformed expression at offset {offset}"
  | malformedTree fault => s!"malformed component tree: {fault.message}"
  | nestingTooDeep maximum => s!"component nesting deeper than {maximum}"
  | tooManyOperations maximum => s!"more than {maximum} operations"
  | duplicateVariable id => s!"duplicate variable id {id.text}"
  | duplicateComponent id => s!"duplicate component id {id.text}"
  | duplicateAction id => s!"duplicate action id {id.text}"
  | unknownAction id => s!"touch modifier references undeclared action {id.text}"

/-! ## Encoding -/

/-- Why an operation or a document has no encoding. -/
inductive EncodeError where
  | unsupportedOperation (opcode : UInt8) (profile : String)
  | tooLarge (length : Nat)
  | tooManyEntries (what : String) (count : Nat)
deriving DecidableEq, Repr

/-- The name of the cause of an encoding failure. -/
def EncodeError.name : EncodeError → String
  | unsupportedOperation .. => "UnsupportedOperation"
  | tooLarge .. => "TooLarge"
  | tooManyEntries .. => "TooManyEntries"

/-- The words for an encoding failure. -/
def EncodeError.message : EncodeError → String
  | unsupportedOperation opcode profile =>
    s!"opcode 0x{Text.hexByte opcode} is not allowed by profile '{profile}'"
  | tooLarge length =>
    s!"document body of {length} bytes does not fit the header length field"
  | tooManyEntries what count =>
    s!"{what} has {count} entries, more than the wire format allows"

/-! ## Variables -/

/-- What a reader of a variable asked for. -/
inductive Expected where
  | kind (kind : Kind)
  | number
deriving DecidableEq, Repr

/-- The word for what was asked for. -/
def Expected.name : Expected → String
  | .kind k => k.name
  | .number => "number"

/-- Why a variable cannot be read or written. -/
inductive StoreError where
  | unknownVariable (id : VariableId)
  | kindMismatch (id : VariableId) (expected : Expected) (actual : Kind)
  | readOnly (id : VariableId)
  | duplicateVariable (id : VariableId)
  | indexOutOfBounds (list : VariableId) (index : Int)
  | unknownName (name : String)
deriving DecidableEq, Repr

/-- The name of the cause of a store failure. -/
def StoreError.name : StoreError → String
  | unknownVariable .. => "UnknownVariable"
  | kindMismatch .. => "KindMismatch"
  | readOnly .. => "ReadOnly"
  | duplicateVariable .. => "DuplicateVariable"
  | indexOutOfBounds .. => "IndexOutOfBounds"
  | unknownName .. => "UnknownName"

/-- The words for a store failure. -/
def StoreError.message : StoreError → String
  | unknownVariable id => s!"unknown variable {id.text}"
  | kindMismatch id expected actual =>
    s!"variable {id.text} holds {actual.name}, expected {expected.name}"
  | readOnly id => s!"variable {id.text} is an interned constant"
  | duplicateVariable id => s!"duplicate variable id {id.text}"
  | indexOutOfBounds list index => s!"index {index} out of bounds for list {list.text}"
  | unknownName name => s!"no variable named {Text.quoted name}"

end Panel
