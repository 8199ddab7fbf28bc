import Panel.Config
import Panel.Wire.Header
import Panel.Wire.Operation

/-!
# Documents as bytes

A header, then the operations one after the other up to the end.

* `encodeDocument` writes operations for a profile, `decodeDocument` reads a buffer for a player.
-/

namespace Panel.Wire

/-- What a buffer holds. -/
structure DecodedDocument where
  header : Header
  profile : Profile
  operations : List Operation
deriving DecidableEq, Repr

/-- The bytes of a document. -/
def encodeDocument (operations : List Operation) (profile : Profile) :
    Except EncodeError (List UInt8) := do
  let body ← (Encoding.concat (operations.map (·.encodingUnder profile))).toExcept
  if body.length < capacity 4 then
    let header : Header := ⟨profile.apiLevel, profile.id, .ofNat body.length⟩
    return header.bytes ++ body
  else
    throw (.tooLarge body.length)

/-- Operations up to the end of the buffer, of which no more than `maximum` are left to the reader.
Each operation takes a byte at least, so that `fuel` need not exceed the number of bytes. -/
def Read.operations (profile : Profile) (limit : Nat) : (fuel maximum : Nat) → Read (List Operation)
  | 0, _ => return []
  | fuel + 1, maximum => do
    if (← get).isEmpty then
      return []
    match maximum with
    | 0 => throw (.tooManyOperations limit)
    | maximum + 1 =>
      let op ← operation profile
      return op :: (← operations profile limit fuel maximum)

/-- Check what a header declares against what a player can do. -/
def Header.profile (config : Config) (header : Header) : Except DecodeError Profile :=
  if Profile.maxApiLevel < header.apiLevel then
    .error (.unsupportedApiLevel header.apiLevel Profile.maxApiLevel)
  else match Profile.byId? header.profileId with
    | none => .error (.unknownProfile header.profileId)
    | some profile =>
      if header.apiLevel < profile.apiLevel then
        .error (.apiLevelBelowProfile header.apiLevel profile.name profile.apiLevel)
      else if config.profile.accepts profile then
        .ok profile
      else
        .error (.incompatibleProfile profile.name config.profile.name)

/-- What a buffer holds, for a player with the given limits. -/
def decodeDocument (bytes : List UInt8) (config : Config) : Except DecodeError DecodedDocument := do
  let (header, body) ← Header.read bytes
  let profile ← header.profile config
  if body.length ≠ header.length.toNat then
    throw (.lengthMismatch header.length body.length)
  match Read.operations profile config.maxOperations body.length config.maxOperations
      ⟨Header.size, body⟩ with
  | .ok operations _ => return ⟨header, profile, operations⟩
  | .error error _ => throw error

end Panel.Wire
