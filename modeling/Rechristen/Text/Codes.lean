import Rechristen.Text.Case
import Rechristen.Text.Quoted

/-!
# Texts by their codes

Characters beyond the first 65536 are escaped as pairs of codes.  An escape can also write one half
of a pair without the other.  A text with such a half has no characters there, so it is kept by its
codes.
-/

namespace Rechristen.Text

/-- A text by its codes, of which some may be halves of pairs. -/
abbrev Codes := List Nat

/-- The codes of a text. -/
def codesOf (s : String) : Codes :=
  s.toList.map Char.toNat

/-- A code as a character.  Half of a pair is none, and reads as the replacement character. -/
def charOfCode (n : Nat) : Char :=
  if n.isValidChar then Char.ofNat n else '�'

namespace Codes

/-- Every code is that of a character. -/
def isText (cs : Codes) : Bool :=
  cs.all fun n => decide n.isValidChar

/-- The characters of codes. -/
def chars (cs : Codes) : List Char :=
  cs.map charOfCode

/-- The text of codes. -/
def text (cs : Codes) : String :=
  String.ofList cs.chars

/-- Codes with the two halves of each pair made one. -/
def paired : Codes → Codes
  | [] => []
  | [n] => [n]
  | m :: n :: rest =>
    if 0xd800 ≤ m && m < 0xdc00 && 0xdc00 ≤ n && n < 0xe000 then
      (0x10000 + (m - 0xd800) * 0x400 + (n - 0xdc00)) :: paired rest
    else m :: paired (n :: rest)

/-- One code inside quotes. -/
def escape (quote : Char) (n : Nat) : List Char :=
  if n.isValidChar then escapeChar quote (charOfCode n) else '\\' :: 'u' :: hex 4 n

/-- A text in quotes, by its codes. -/
def quoted (cs : Codes) : String :=
  let quote := quoteFor cs.chars
  String.ofList (quote :: cs.flatMap (escape quote) ++ [quote])

/-- The lower-case form of a text, by its codes. -/
def lowercase (cs : Codes) : Codes :=
  if cs.isText then codesOf (Text.lowercase cs.text)
  else cs.map fun n => if n.isValidChar then (lowerChar (charOfCode n)).toNat else n

end Codes

end Rechristen.Text
