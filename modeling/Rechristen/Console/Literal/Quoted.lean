import Rechristen.Text.CharacterName
import Rechristen.Text.Numeral

/-!
# Quoted texts as literals

A text stands between quotes, or between three quotes on either side, and then it may hold line
ends.  Letters in front tell how it is read: as it is written or with escapes, as characters or as
bytes.
-/

namespace Rechristen.Literal

/-- How a quoted text is read. -/
structure Manner where
  /-- A backslash stands for itself. -/
  raw : Bool
  /-- The text stands for bytes. -/
  octets : Bool

/-- The letters in front of a quoted text. -/
def manner? (letters : List Char) : Option Manner :=
  match String.ofList (letters.map Char.toLower) with
  | "" | "u" => some ⟨false, false⟩
  | "r" => some ⟨true, false⟩
  | "b" => some ⟨false, true⟩
  | "br" | "rb" => some ⟨true, true⟩
  | _ => none

/-- The characters up to the quotes at the end, and those behind.  A character behind a backslash
ends nothing, and only between three quotes there may be line ends. -/
def body? (quote : Char) (three : Bool) : List Char → Option (List Char × List Char)
  | [] => none
  | '\\' :: c :: rest => (body? quote three rest).map fun (body, rest) => ('\\' :: c :: body, rest)
  | c :: rest =>
    if three then
      if [quote, quote, quote].isPrefixOf (c :: rest) then some ([], rest.drop 2)
      else (body? quote three rest).map fun (body, rest) => (c :: body, rest)
    else if c == quote then some ([], rest)
    else if c == '\n' then none
    else (body? quote three rest).map fun (body, rest) => (c :: body, rest)

/-- The first so many characters are hexadecimal digits. -/
def hexes? (count : Nat) (cs : List Char) : Option Nat :=
  let ds := cs.take count
  if ds.length = count && ds.all (Text.Numeral.isDigitOf 16) then
    some (Text.Numeral.valueOf 16 ds)
  else none

/-- The name of a character stands in braces. -/
def hasName (cs : List Char) : Bool :=
  match cs with
  | '\x7b' :: rest =>
    rest.contains '\x7d' &&
      Text.isCharacterName (String.ofList (rest.takeWhile (· != '\x7d')))
  | _ => false

/-- Whether an escape is whole: `mark` stands behind the backslash and `rest` behind it.  A mark
without a meaning stands for itself. -/
def isEscape (octets : Bool) (mark : Char) (rest : List Char) : Bool :=
  match mark, octets with
  | 'x', _ => (hexes? 2 rest).isSome
  | 'u', false => (hexes? 4 rest).isSome
  | 'U', false => (hexes? 8 rest).any (· ≤ 0x10ffff)
  | 'N', false => hasName rest
  | _, _ => true

/-- All escapes of a text are whole.  What follows the mark of an escape holds no backslash. -/
def escapesHold (octets : Bool) : List Char → Bool
  | [] => true
  | '\\' :: mark :: rest => isEscape octets mark rest && escapesHold octets rest
  | _ :: rest => escapesHold octets rest

namespace Manner

/-- A text can be read in a manner. -/
def reads (m : Manner) (body : List Char) : Bool :=
  (!m.octets || body.all (·.toNat < 0x80)) && (m.raw || escapesHold m.octets body)

end Manner

/-- Read a quoted text: whether it stands for bytes, and what follows it. -/
def quoted? (cs : List Char) : Option (Bool × List Char) := do
  let letters := cs.takeWhile Char.isAlpha
  let manner ← manner? letters
  match cs.drop letters.length with
  | quote :: rest =>
    if quote == '\'' || quote == '"' then do
      let three := [quote, quote].isPrefixOf rest
      let (body, rest) ← body? quote three (if three then rest.drop 2 else rest)
      if manner.reads body then some (manner.octets, rest) else none
    else none
  | [] => none

end Rechristen.Literal
