import Rechristen.Text.Affix
import Rechristen.Text.Blank
import Rechristen.Text.Width

/-!
# Lines of a limited width

A text is shown in lines that take no more than a number of columns.  A line is broken between
words.  A word that is too long for a line by itself is either folded, so that nothing is lost, or
cut, and then an ellipsis stands for what is missing.
-/

namespace Rechristen.Text

/-- How a word is shown that is too long for a line. -/
inductive Overflow where
  | fold
  | ellipsis
  deriving DecidableEq

/-! ## Tabs -/

/-- The distance of the columns that tabs lead to. -/
def tabStop : Nat := 8

/-- The parts of a line between tabs, filled up to the next column that tabs lead to.  `column` is
where the first part begins. -/
def fillTabs (column : Nat) : List (List Char) → List Char
  | [] => []
  | [part] => part
  | part :: rest =>
    let reached := column + columns false none (part ++ [' '])
    let blanks := (tabStop - reached % tabStop) % tabStop
    part ++ ' ' :: List.replicate blanks ' ' ++ fillTabs (reached + blanks) rest

/-- A line with blanks in place of tabs.  A tab makes one blank at least. -/
def withoutTabs (line : List Char) : List Char :=
  fillTabs 0 (partsOf '\t' line)

/-! ## Breaking a line -/

/-- The words of a line with the blanks around them: each has the blanks behind it, and the first
those in front of it.  `word` is what was read of a word, last character first. -/
def wordsFrom (word : List Char) : List Char → List (List Char)
  | [] => if word.isEmpty then [] else [word.reverse]
  | c :: rest =>
    if !isBlank c && word.head?.any isBlank && word.any (fun d => !isBlank d) then
      word.reverse :: wordsFrom [c] rest
    else wordsFrom (c :: word) rest

/-- Characters without the blanks at their end. -/
def bare (cs : List Char) : List Char :=
  (cs.reverse.dropWhile isBlank).reverse

/-- Clusters in rows of a limited width.  `row` is the row being filled, last cluster first, and
`free` what is left of it. -/
def rowsFrom (limit free : Nat) (row : List Cluster) : List Cluster → List (List Cluster)
  | [] => if row.isEmpty then [] else [row.reverse]
  | c :: rest =>
    if c.width ≤ free then rowsFrom limit (free - c.width) (c :: row) rest
    else row.reverse :: rowsFrom limit (limit - c.width) [c] rest

/-- A word folded into rows of a limited width. -/
def folded (limit : Nat) (word : List Char) : List (List Char) :=
  (rowsFrom limit limit [] (clusters word)).map fun row => row.flatMap Cluster.chars

/-- Lines being filled. -/
structure Filling where
  done : List (List Char) := []
  line : List Char := []
  column : Nat := 0

namespace Filling

/-- Nothing has been read. -/
def isFresh (f : Filling) : Bool :=
  f.done.isEmpty && f.line.isEmpty

/-- Start a line with some characters.  The very first line need not be started. -/
def startLine (f : Filling) (cs : List Char) : Filling :=
  ⟨if f.isFresh then [] else f.done ++ [f.line], cs, columns false none cs⟩

/-- One more word. -/
def add (limit : Nat) (overflow : Overflow) (f : Filling) (word : List Char) : Filling :=
  let size := columns false none (bare word)
  if f.column + size ≤ limit then
    { f with line := f.line ++ word, column := f.column + columns false none word }
  else if limit < size then
    if overflow = .fold then (folded limit word).foldl startLine f else f.startLine word
  else if f.column ≠ 0 && !f.isFresh then f.startLine word
  else { f with line := f.line ++ word }

end Filling

/-- A line broken into lines of a limited width. -/
def broken (limit : Nat) (overflow : Overflow) (line : List Char) : List (List Char) :=
  if line.all isBlank then [line]
  else
    let f := (wordsFrom [] line).foldl (Filling.add limit overflow) {}
    f.done ++ [f.line]

/-! ## Cutting a line -/

/-- A line without blanks at its end that go beyond a number of characters. -/
def trimBeyond (limit : Nat) (line : List Char) : List Char :=
  let blanks := line.length - (bare line).length
  line.take (line.length - min blanks (line.length - limit))

/-- The clusters that fit into a number of columns.  A blank stands for half of a wide one. -/
def fitting : Nat → List Cluster → List Char
  | _, [] => []
  | 0, _ => []
  | n + 1, c :: rest =>
    if c.width ≤ n + 1 then c.chars ++ fitting (n + 1 - c.width) rest else [' ']

/-- A line cut to a number of columns. -/
def cutTo (limit : Nat) (overflow : Overflow) (line : List Char) : List Char :=
  if columns false none line ≤ limit then line
  else
    match overflow with
    | .fold => fitting limit (clusters line)
    | .ellipsis => fitting (limit - 1) (clusters line) ++ ['…']

/-- The lines of a text in a limited width. -/
def wrap (limit : Nat) (overflow : Overflow) (s : String) : List String :=
  (partsOf '\n' s.toList).flatMap fun line =>
    (broken limit overflow (withoutTabs line)).map fun l =>
      String.ofList (cutTo limit overflow (trimBeyond limit l))

end Rechristen.Text
