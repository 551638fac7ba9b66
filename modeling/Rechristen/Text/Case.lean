import Rechristen.Text.CaseTable
import Rechristen.Text.Ranges

/-!
# Lower-case texts

Names are compared without regard to letter case, by their lower-case forms.  The lower-case form
of a text is that of its characters one by one, with two exceptions: a capital I with dot becomes
two characters, and a capital sigma becomes a final sigma at the end of a word.
-/

namespace Rechristen.Text

/-- The lower-case form of a character that does not depend on its surroundings. -/
def lowerChar (c : Char) : Char :=
  if c.toNat < 0x80 then c.toLower
  else
    match caseRuns.find? fun run =>
        run.first ≤ c.toNat && c.toNat ≤ run.last && (c.toNat - run.first) % run.step == 0 with
    | some run => Char.ofNat (c.toNat + run.offset).toNat
    | none => c

/-- Whether a character has case, for the sigma rule. -/
def isCased (c : Char) : Bool :=
  if c.toNat < 0x80 then c.isAlpha else inRanges casedRanges c.toNat

/-- Whether a character is passed over by the sigma rule. -/
def isCaseIgnorable (c : Char) : Bool :=
  inRanges caseIgnorableRanges c.toNat

/-- Whether the next character that is not passed over has case. -/
def meetsCased (cs : List Char) : Bool :=
  ((cs.dropWhile isCaseIgnorable).head?.map isCased).getD false

/-- A capital sigma is final when a letter stands before it and none after it.  The characters
before it are given from right to left. -/
def isFinalSigma (before after : List Char) : Bool :=
  meetsCased before && !meetsCased after

/-- The lower-case form of the first character of `c :: after` when `before` stands before it. -/
def lowerAt (before : List Char) (c : Char) (after : List Char) : List Char :=
  if c = 'Σ' then [if isFinalSigma before after then 'ς' else 'σ']
  else if c = 'İ' then ['i', Char.ofNat 0x307]
  else [lowerChar c]

/-- The lower-case form of a list of characters that follows `before` (from right to left). -/
def lowerFrom (before : List Char) : List Char → List Char
  | [] => []
  | c :: after => lowerAt before c after ++ lowerFrom (c :: before) after

/-- The lower-case form of a text. -/
def lowercase (s : String) : String :=
  String.ofList (lowerFrom [] s.toList)

end Rechristen.Text
