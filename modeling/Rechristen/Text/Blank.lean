import Rechristen.Text.Affix
import Rechristen.Text.Ranges

/-!
# Blank characters

Blank are the characters that separate words and lines: the Unicode spaces, the line and paragraph
separators and the control characters that were meant as such.
-/

namespace Rechristen.Text

/-- The blank characters. -/
def blankRanges : Array (Nat × Nat) := #[
  (0x9, 0xd), (0x1c, 0x20), (0x85, 0x85), (0xa0, 0xa0), (0x1680, 0x1680), (0x2000, 0x200a),
  (0x2028, 0x2029), (0x202f, 0x202f), (0x205f, 0x205f), (0x3000, 0x3000)]

/-- Whether a character is blank. -/
def isBlank (c : Char) : Bool :=
  inRanges blankRanges c.toNat

/-- A text without the blanks at its ends. -/
def trimBlanks (s : String) : String :=
  trim isBlank s

end Rechristen.Text
