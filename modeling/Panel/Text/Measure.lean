import Panel.Geometry
import Panel.Single.Integer
import Panel.Text.Grapheme
import Panel.Text.Width

/-!
# Sizes of text

Layout asks for the size of a text in a style through a `TextMeasure`.  The measure given here is
that of a fixed-width font: a line is as wide as its cells, and a cell is a fixed fraction of the
font size.
-/

namespace Panel

namespace Text

/-! ## Cells -/

/-- Cells that one cluster takes.  Flags, joined emoji and characters in their emoji form take two;
otherwise marks add nothing to the widest character. -/
def clusterWidth : List Char → Nat
  | [] => 0
  | c :: rest =>
    if isRegionalIndicator c ||
        (c :: rest).any fun d => d.toNat = 0xFE0F || d.toNat = 0x200D then 2
    else ((c :: rest).map charWidth).foldl Nat.max 0

/-- Cells that a text takes on one line. -/
def lineWidth (s : List Char) : Nat :=
  (clusters s).foldl (fun width cluster => width + clusterWidth cluster) 0

/-- The lines of a text; line breaks separate them. -/
def lines : List Char → List (List Char)
  | [] => [[]]
  | c :: rest =>
    if c = '\n' then [] :: lines rest
    else match lines rest with
      | [] => [[c]]
      | line :: others => (c :: line) :: others

/-- The number of lines.  A text without characters has none. -/
def lineCount (s : List Char) : Nat := if s.isEmpty then 0 else (lines s).length

/-- Cells of the longest line. -/
def widestLine (s : List Char) : Nat := ((lines s).map lineWidth).foldl Nat.max 0

end Text

/-! ## Measures -/

/-- What a text looks like, as far as it has a bearing on its size. -/
structure TextStyle where
  fontSize : Single
  weight : UInt16
  italic : Bool
deriving DecidableEq, Repr

/-- Regular text of size fourteen. -/
def TextStyle.default : TextStyle := ⟨⟨0x41600000⟩, 400, false⟩

/-- The size of a text in a style. -/
abbrev TextMeasure := String → TextStyle → Size

/-- A fixed-width font. -/
structure Monospace where
  /-- The width of a cell as a multiple of the font size. -/
  advance : Single
  /-- The height of a line as a multiple of the font size. -/
  lineHeight : Single
deriving DecidableEq, Repr

namespace Monospace

/-- Cells of six tenths of the font size. -/
def standard : Monospace := ⟨⟨0x3F19999A⟩, .one⟩

/-- Square cells of the font size. -/
def terminal : Monospace := ⟨.one, .one⟩

/-- The size of a text.  The font size counts as zero if it is negative, and no text has no size. -/
def measure (font : Monospace) : TextMeasure := fun text style =>
  let s := text.toList
  if s.isEmpty then
    .empty
  else
    let fontSize := style.fontSize.clampNegative
    ⟨.ofNat (Text.widestLine s) * font.advance * fontSize,
      .ofNat (Text.lineCount s) * font.lineHeight * fontSize⟩

end Monospace

end Panel
