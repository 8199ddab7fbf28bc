import Panel.Geometry
import Panel.Profile

/-!
# Configuration

What a player can do, and how much of it a document may ask for.
-/

namespace Panel

/-- The limits a player works under. -/
structure Config where
  /-- The operations that the player knows.  Only documents whose profile this one accepts are
  played. -/
  profile : Profile := .core3
  /-- The largest number of open containers. -/
  maxDepth : Nat := 64
  /-- The largest number of operations of one document. -/
  maxOperations : Nat := 65536
  /-- The viewport until the first update. -/
  viewport : Size := .empty
deriving DecidableEq, Repr

end Panel
