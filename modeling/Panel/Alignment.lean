import Panel.Single.Basic

/-!
# Arrangement and alignment

A row or column distributes spare space along its axis by an `Arrangement`; every container places
its children across the remaining axis, or along both, by an `Alignment`.
-/

namespace Panel

/-- Distribution of the spare space of a row or column along its axis. -/
inductive Arrangement where
  | start
  | center
  | finish
  | spaceBetween
  | spaceAround
  | spaceEvenly
deriving DecidableEq, Repr, Inhabited

namespace Arrangement

/-- The number that stands for an arrangement. -/
def code : Arrangement → UInt8
  | start => 0
  | center => 1
  | finish => 2
  | spaceBetween => 3
  | spaceAround => 4
  | spaceEvenly => 5

/-- The arrangement that a number stands for. -/
def ofCode? : UInt8 → Option Arrangement
  | 0 => some start
  | 1 => some center
  | 2 => some finish
  | 3 => some spaceBetween
  | 4 => some spaceAround
  | 5 => some spaceEvenly
  | _ => none

@[simp] theorem ofCode?_code (a : Arrangement) : ofCode? a.code = some a := by
  cases a <;> rfl

end Arrangement

/-- Position of an item in a space that is at least as large. -/
inductive Alignment where
  | start
  | center
  | finish
deriving DecidableEq, Repr, Inhabited

namespace Alignment

/-- The number that stands for an alignment. -/
def code : Alignment → UInt8
  | start => 0
  | center => 1
  | finish => 2

/-- The alignment that a number stands for. -/
def ofCode? : UInt8 → Option Alignment
  | 0 => some start
  | 1 => some center
  | 2 => some finish
  | _ => none

@[simp] theorem ofCode?_code (a : Alignment) : ofCode? a.code = some a := by
  cases a <;> rfl

/-- Distance of an item from the start of a space.  An item larger than the space stays at the
start. -/
def offset (a : Alignment) (space item : Single) : Single :=
  let free := (space - item).clampNegative
  match a with
  | start => .zero
  | center => free / .two
  | finish => free

end Alignment

end Panel
