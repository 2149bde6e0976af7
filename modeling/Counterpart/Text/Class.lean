import Counterpart.Text.Ranges
import Counterpart.Text.WordRanges
import Counterpart.Text.HiddenRanges

/-! Classes of characters: word characters make up names, blanks separate words, gaps are the
blanks allowed inside a definition line, and hidden characters have no visible form. -/

namespace Counterpart

/-- Letters, characters with a numeric value, and the underscore. Combining marks are not. -/
def isWord (c : Char) : Bool :=
  c.isAlphanum || c == '_' || (128 ≤ c.toNat && inRanges c.toNat wordRanges)

/-- The white space that trimming removes. -/
def isBlank (c : Char) : Bool :=
  inRanges c.toNat [(0x9, 0xD), (0x1C, 0x20), (0x85, 0x85), (0xA0, 0xA0), (0x1680, 0x1680),
    (0x2000, 0x200A), (0x2028, 0x2029), (0x202F, 0x202F), (0x205F, 0x205F), (0x3000, 0x3000)]

/-- Spaces and tabs. -/
def isGap (c : Char) : Bool := c == ' ' || c == '\t'

def isHidden (c : Char) : Bool :=
  c.toNat < 32 || c.toNat == 127 || (128 ≤ c.toNat && inRanges c.toNat hiddenRanges)

theorem isBlank_of_isGap {c : Char} (h : isGap c = true) : isBlank c = true := by
  rcases (by simpa [isGap] using h : c = ' ' ∨ c = '\t') with rfl | rfl <;> decide

theorem isWord_eq_false_of_isGap {c : Char} (h : isGap c = true) : isWord c = false := by
  rcases (by simpa [isGap] using h : c = ' ' ∨ c = '\t') with rfl | rfl <;> decide

/-- The leading white space of a line, counted. -/
def leadingBlanks (line : List Char) : Nat := (line.takeWhile isBlank).length

end Counterpart
