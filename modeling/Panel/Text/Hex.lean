/-!
# Hexadecimal text

A byte as two lower-case hexadecimal digits.
-/

namespace Panel.Text

/-- A byte as two lower-case hexadecimal digits. -/
def hexByte (b : UInt8) : String :=
  String.ofList [Nat.digitChar (b.toNat / 16), Nat.digitChar (b.toNat % 16)]

end Panel.Text
