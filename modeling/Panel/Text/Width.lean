import Panel.Text.BreakClass
import Panel.Text.Wide

/-!
# Cell widths of characters

`charWidth` gives the number of cells of a fixed-width line that one character takes by itself:
none for controls, marks and invisible characters, two for wide characters, one for the rest.
-/

namespace Panel.Text

/-- Code points that stay invisible where they are not supported. -/
def defaultIgnorable : List (Nat × Nat) := [
  (0xAD, 0xAD), (0x34F, 0x34F), (0x61C, 0x61C), (0x115F, 0x1160), (0x17B4, 0x17B5),
   (0x180B, 0x180F), (0x200B, 0x200F), (0x202A, 0x202E), (0x2060, 0x206F), (0x3164, 0x3164),
   (0xFE00, 0xFE0F), (0xFEFF, 0xFEFF), (0xFFA0, 0xFFA0), (0xFFF0, 0xFFF8), (0x1BCA0, 0x1BCA3),
   (0x1D173, 0x1D17A), (0xE0000, 0xE0FFF)]

/-- Code points of vowel signs that decompose into two marks without being marks themselves, of
number marks that stand above or below other characters, and of a caret that is a mark. -/
def zeroWidthExceptions : List (Nat × Nat) := [
  (0x605, 0x605), (0x70F, 0x70F), (0x890, 0x891), (0x8E2, 0x8E2), (0xCC0, 0xCC0), (0xCC7, 0xCC8),
  (0xCCA, 0xCCB), (0x1B3B, 0x1B3B), (0x1B3D, 0x1B3D), (0x1B43, 0x1B43), (0xA8FA, 0xA8FA)]

/-- Code points that take no cell because they are set aside for marks.  They do not extend the
character before them. -/
def plannedMark : List (Nat × Nat) := [
  (0x5C8, 0x5C9), (0xB53, 0xB54), (0x1ADE, 0x1ADF), (0x1AEC, 0x1AF0), (0x10ECB, 0x10ECF),
   (0x10EF0, 0x10EF9), (0x11DF0, 0x11DF0), (0x1D127, 0x1D128), (0x1D250, 0x1D252),
   (0x1D25B, 0x1D25C), (0x1D25F, 0x1D25F), (0x1D280, 0x1D281)]

/-- Code points that number or mark the characters after them and take space of their own. -/
def prependedMark : List (Nat × Nat) := [
  (0x600, 0x605), (0x6DD, 0x6DD), (0x70F, 0x70F), (0x890, 0x891), (0x8E2, 0x8E2),
  (0x110BD, 0x110BD), (0x110CD, 0x110CD)]

/-- Whether a character is a control. -/
def isControl (c : Char) : Bool := c.toNat < 0x20 || (0x7F ≤ c.toNat && c.toNat < 0xA0)

/-- Whether a character other than a control takes no cell of its own. -/
def isZeroWidth (c : Char) : Bool :=
  let n := c.toNat
  inRanges defaultIgnorable n || isGraphemeExtend c ||
    inRanges vowelJamo n || inRanges trailingJamo n ||
    (inRanges prepend n && !inRanges prependedMark n) || inRanges zeroWidthExceptions n ||
    inRanges plannedMark n

/-- Cells that one character takes by itself.  The filler of leading consonants is as wide as the
syllable it opens, and two Khmer letters stand for longer words. -/
def charWidth (c : Char) : Nat :=
  let n := c.toNat
  if isControl c then 0
  else if n = 0x115F || n = 0x17A4 then 2
  else if n = 0x17D8 then 3
  else if n = 0x2D7F then 1
  else if isZeroWidth c then 0
  else if isWide c then 2
  else 1

end Panel.Text
