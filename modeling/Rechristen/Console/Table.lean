import Rechristen.Text.Lines
import Rechristen.Text.Wrap

/-!
# Tables on the terminal

A table has a title, a heavy head and a light body.  Every cell has a blank on both sides, and a
column is as wide as its widest cell.  If the table would be wider than the terminal, the widest
columns are made narrower, and their cells take several lines.
-/

namespace Rechristen

/-- A table. -/
structure Table where
  title : String
  headings : List String
  rows : List (List String)
  /-- Whether the cells of the first column stand at its right end. -/
  firstToRight : Bool := false

namespace Table

/-- Look at every cell, column by column. -/
def visit (f : String → Except ε Unit) (t : Table) : Except ε Unit :=
  t.headings.zipIdx.forM fun (heading, i) => do
    f heading
    t.rows.forM fun row => f (row.getD i "")

/-- The table with every text changed. -/
def mapM (f : String → Except ε String) (t : Table) : Except ε Table := do
  let rows ← t.rows.mapM (·.mapM f)
  return { t with title := ← f t.title, headings := ← t.headings.mapM f, rows }

/-- Blanks. -/
def blanks (n : Nat) : String :=
  String.ofList (List.replicate n ' ')

/-! ## Widths of columns -/

/-- The columns a text takes that may have several lines. -/
def textWidth (s : String) : Nat :=
  (Text.lines s).foldl (fun w line => max w (Text.width line)) 0

/-- The number of columns each cell of one line takes at least. -/
def widen (widths : List Nat) (cells : List String) : List Nat :=
  widths.zipWith (fun w c => max w (textWidth c)) cells

/-- The quotient of two numbers, rounded to the nearest; a half goes to the even neighbour. -/
def roundedQuotient (a b : Nat) : Nat :=
  let q := a / b
  if 2 * (a % b) < b || (2 * (a % b) = b && q % 2 = 0) then q else q + 1

/-- Take a total off the widths for which `shares` holds, evenly and no more than `most` off each.
`count` is the number of these widths. -/
def takeOff (shares : Nat → Bool) (most : Nat) : Nat → Nat → List Nat → List Nat
  | _, _, [] => []
  | total, count, w :: rest =>
    if shares w then
      let part := min most (roundedQuotient total count)
      (w - part) :: takeOff shares most (total - part) (count - 1) rest
    else w :: takeOff shares most total count rest

/-- The width of columns together. -/
def wholeWidth (widths : List Nat) : Nat :=
  widths.foldl (· + ·) 0

/-- Make the widest columns narrower until the widths are no more than a limit together.  No step
makes a column narrower than the next to the widest. -/
def collapse (limit : Nat) : Nat → List Nat → List Nat
  | 0, widths => widths
  | n + 1, widths =>
    let excess := wholeWidth widths - limit
    let widest := widths.foldl max 0
    let next := (widths.filter (· != widest)).foldl max 0
    if excess = 0 || widest = next then widths
    else
      collapse limit n
        (takeOff (· == widest) (min excess (widest - next)) excess (widths.count widest) widths)

/-- The widths of the columns with the blanks on both sides. -/
def paddedWidths (columns : Nat) (t : Table) : List Nat :=
  let limit := columns - (t.headings.length + 1)
  let widths := (t.rows.foldl widen (t.headings.map textWidth)).map fun w => min (w + 2) limit
  collapse limit (wholeWidth widths) widths

/-! ## Lines -/

/-- The lines of a cell, filled up to the width of its column. -/
def cell (toRight : Bool) (padded : Nat) (text : String) : List String :=
  let width := padded - 2
  (Text.wrap width .ellipsis text).map fun line =>
    let fill := blanks (width - Text.width line)
    " " ++ (if toRight then fill ++ line else line ++ fill) ++ " "

/-- The cells of one row as columns of lines of the same number. -/
def fill (t : Table) (widths : List Nat) (cells : List String) : List (List String) :=
  let columns := (widths.zip cells).zipIdx.map fun ((w, c), i) =>
    (w, cell (t.firstToRight && i = 0) w c)
  let height := columns.foldl (fun h c => max h c.2.length) 1
  columns.map fun (w, lines) => lines ++ List.replicate (height - lines.length) (blanks w)

/-- The lines of a row, of which `fill` has made columns. -/
def across : List (List String) → List (List String)
  | [] => []
  | [column] => column.map fun line => [line]
  | column :: rest => column.zipWith (· :: ·) (across rest)

/-- The lines of a row of cells between strokes. -/
def rowLines (t : Table) (widths : List Nat) (stroke : String) (cells : List String) :
    List String :=
  (across (t.fill widths cells)).map fun line => stroke ++ stroke.intercalate line ++ stroke

/-- A rule: its left end, its strokes, its crossings and its right end. -/
def rule (widths : List Nat) (left : String) (stroke : Char) (crossing right : String) : String :=
  left ++ crossing.intercalate (widths.map fun w => String.ofList (List.replicate w stroke)) ++
    right

/-- The title in the middle above the table; of an odd number of blanks the last stands on the
right. -/
def titleLine (t : Table) (widths : List Nat) : String :=
  let free := wholeWidth widths + widths.length + 1 - Text.width t.title
  blanks (free / 2) ++ t.title ++ blanks (free - free / 2)

/-- The lines of a table on a terminal with a number of columns. -/
def lines (columns : Nat) (t : Table) : List String :=
  let widths := t.paddedWidths columns
  [t.titleLine widths, rule widths "┏" '━' "┳" "┓"] ++ t.rowLines widths "┃" t.headings ++
    [rule widths "┡" '━' "╇" "┩"] ++ t.rows.flatMap (t.rowLines widths "│") ++
    [rule widths "└" '─' "┴" "┘"]

end Table

end Rechristen
