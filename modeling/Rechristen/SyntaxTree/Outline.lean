import Rechristen.SyntaxTree
import Rechristen.Text.Affix

/-!
# Outlines of syntax trees

A tree can be written as a list of rows, one for each node, each before its children; a row tells
how deep its node lies.  Reading goes from the last row to the first: the trees read so far that lie
deeper than a row, up to the first that does not, are the children of its node.
-/

namespace Rechristen

/-- A node without its children. -/
structure OutlineRow where
  depth : Nat
  kind : String
  isNamed : Bool
  isMissing : Bool
  start : Int
  stop : Int
  field : Option String

/-- A row from its words: depth, kind, marks, bounds and the name of the field, if there is one.  Of
the marks, one stands for a named node and two for a missing one. -/
def OutlineRow.ofWords? : List String → Option OutlineRow
  | depth :: kind :: marks :: start :: stop :: field => do
    let depth ← depth.toNat?
    let marks ← marks.toNat?
    let start ← start.toInt?
    let stop ← stop.toInt?
    return ⟨depth, kind, marks % 2 = 1, marks / 2 % 2 = 1, start, stop, field.head?⟩
  | _ => none

/-- The rows of an outline that is written as text, one row a line. -/
def OutlineRow.ofText? (text : String) : Option (List OutlineRow) :=
  ((Text.splitAt '\n' text).filter (!·.isEmpty)).mapM fun line =>
    ofWords? ((Text.splitAt ' ' line).filter (!·.isEmpty))

namespace SyntaxTree

/-- The trees read so far, each with its depth, after one row more. -/
def attach (row : OutlineRow) (trees : List (Nat × Node)) : List (Nat × Node) :=
  let children := trees.takeWhile fun t => row.depth < t.1
  (row.depth,
      .mk row.kind row.isNamed row.isMissing row.start row.stop row.field
        (children.map Prod.snd)) ::
    trees.dropWhile fun t => row.depth < t.1

/-- The node of the first row, with all that follows below it. -/
def ofOutline? (rows : List OutlineRow) : Option Node :=
  (rows.foldr attach []).head?.map Prod.snd

end SyntaxTree

end Rechristen
