import Panel.Opcode
import Panel.OpcodeSet

/-!
# Profiles

A profile names the operations that a document may contain.  A document declares its profile; a
player has a profile of its own, and plays the documents whose profile it accepts.  Acceptance is
containment of the sets of operations and not a comparison of levels.
-/

namespace Panel

/-- A named, versioned set of allowed operations. -/
structure Profile where
  id : UInt16
  name : String
  apiLevel : UInt16
  opcodes : OpcodeSet
deriving DecidableEq, Repr

namespace Profile

/-- Whether documents of the profile may contain an operation. -/
def allows (p : Profile) (code : UInt8) : Bool := p.opcodes.contains code

/-- Whether a document of profile `q` can be played under `p`. -/
def accepts (p q : Profile) : Bool := p.opcodes.isSuperset q.opcodes

/-! ## The built-in profiles -/

/-- Operations of every profile: values, components, modifiers without a border, and the change of
an integer. -/
def baseOpcodes : List Opcode :=
  [.integerValue, .floatValue, .textData, .colorValue, .listValue,
   .rowStart, .columnStart, .boxStart, .text, .spacer, .containerEnd,
   .width, .height, .padding, .background, .visibility, .touchAction, .valueIntegerChange]

/-- Operations that compute values, borders, and the remaining changes. -/
def computingOpcodes : List Opcode :=
  [.integerExpression, .floatExpression, .textLookup, .textFromNumber, .border,
   .valueFloatChange, .valueStringChange, .valueIntegerExpressionChange]

/-- Operations that concern the host. -/
def hostOpcodes : List Opcode := [.namedVariable, .hostAction]

/-- The set of some operations. -/
def opcodeSet (opcodes : List Opcode) : OpcodeSet :=
  OpcodeSet.empty.insertAll (opcodes.map (·.code))

/-- The first level: plain values, layout and integer changes. -/
def core1 : Profile := ⟨0, "core", 1, opcodeSet baseOpcodes⟩

/-- The second level, which computes. -/
def core2 : Profile := ⟨1, "core", 2, opcodeSet (baseOpcodes ++ computingOpcodes)⟩

/-- The second level that talks to the host instead. -/
def host2 : Profile := ⟨2, "host", 2, opcodeSet (baseOpcodes ++ hostOpcodes)⟩

/-- The third level: everything. -/
def core3 : Profile := ⟨3, "core", 3, core2.opcodes.union host2.opcodes⟩

/-- All profiles, by number. -/
def builtin : List Profile := [core1, core2, host2, core3]

/-- The profile with a number. -/
def byId? (id : UInt16) : Option Profile := builtin.find? fun p => p.id = id

/-- The profile with a name whose level is the highest up to a bound. -/
def newest? (apiLevel : UInt16) (name : String) : Option Profile :=
  (builtin.filter fun p => p.name = name && p.apiLevel ≤ apiLevel).foldl
    (fun best p => match best with
      | none => some p
      | some q => if q.apiLevel ≤ p.apiLevel then some p else some q) none

/-- The highest level of any profile. -/
def maxApiLevel : UInt16 :=
  builtin.foldl (fun level p => if level < p.apiLevel then p.apiLevel else level) 0

end Profile

end Panel
