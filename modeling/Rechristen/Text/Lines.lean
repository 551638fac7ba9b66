import Rechristen.Text.Affix

/-!
# Lines of a text

A line ends after a line feed, a carriage return, the two together, or one of the rarer line
breaks.  A text that does not end in a line break has a last line without one, and the empty text
has no line.
-/

namespace Rechristen.Text

/-- The characters that end a line. -/
def isLineBreak (c : Char) : Bool :=
  (0xa ≤ c.toNat && c.toNat ≤ 0xd) || (0x1c ≤ c.toNat && c.toNat ≤ 0x1e) || c.toNat == 0x85 ||
    c.toNat == 0x2028 || c.toNat == 0x2029

/-- The lines of a list of characters, each with its line break; `line` is what was read of the
current line, from right to left. -/
def linesFrom (line : List Char) : List Char → List (List Char)
  | [] => if line.isEmpty then [] else [line.reverse]
  | '\r' :: '\n' :: rest => ('\n' :: '\r' :: line).reverse :: linesFrom [] rest
  | c :: rest =>
    if isLineBreak c then (c :: line).reverse :: linesFrom [] rest else linesFrom (c :: line) rest

/-- The lines of a text, each with its line break. -/
def linesWithEnds (s : String) : List String :=
  (linesFrom [] s.toList).map String.ofList

/-- The lines of a text, without their line breaks. -/
def lines (s : String) : List String :=
  (linesWithEnds s).map (trimEnd isLineBreak)

/-- The text of line `n`, counted from one, or the empty text if there is no such line. -/
def line (n : Nat) (s : String) : String :=
  if n = 0 then "" else (lines s).getD (n - 1) ""

/-- Line feeds in place of carriage returns, with or without a line feed after them. -/
def unifyLineEnds : List Char → List Char
  | [] => []
  | '\r' :: '\n' :: rest => '\n' :: unifyLineEnds rest
  | c :: rest => (if c == '\r' then '\n' else c) :: unifyLineEnds rest

end Rechristen.Text
