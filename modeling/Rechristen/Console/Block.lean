import Rechristen.Console.Markup
import Rechristen.Console.Table
import Rechristen.Text.Lines

/-!
# Blocks on the terminal

What is printed comes in blocks: texts with markup, tables whose cells have markup, and code, which
is shown as it is.  A block whose markup cannot be read is not printed, and nothing after it.
-/

namespace Rechristen

/-- Something to print at once. -/
inductive Block where
  | text (markup : String)
  | table (table : Table)
  | code (text : String)

namespace Block

/-- The width of the terminal. -/
def terminalWidth : Nat := 500

/-! ## Code -/

/-- Tabs filled up to the next of the columns that are multiples of four. -/
def expandTabs : Nat → List Char → List Char
  | _, [] => []
  | column, c :: rest =>
    if c == '\t' then List.replicate (4 - column % 4) ' ' ++ expandTabs (column / 4 * 4 + 4) rest
    else if c == '\n' || c == '\r' then c :: expandTabs 0 rest
    else c :: expandTabs (column + 1) rest

/-- Code as a terminal shows it. -/
def terminalText (s : String) : String :=
  String.ofList
    ((Text.unifyLineEnds (expandTabs 0 s.toList)).filter fun c => !Markup.isControl c)

/-- The lines of code.  A line end at the end makes an empty line. -/
def codeLines (s : String) : List String :=
  if Text.ends s "\n" then Text.splitAt '\n' (terminalText s)
  else
    match (Text.splitAt '\n' (terminalText (s ++ "\n"))).dropLast with
    | [line] => [line]
    | lines => if lines.getLast? = some "" then lines.dropLast else lines

/-! ## Lines -/

/-- The lines of a block. -/
def lines : Block → Except Fault (List String)
  | text markup => (Markup.shown markup).map (Text.wrap terminalWidth .fold)
  | table t => do
    t.visit fun cell => discard (Markup.plain cell)
    return (← t.mapM Markup.shown).lines terminalWidth
  | code s => .ok ((codeLines s).flatMap (Text.wrap terminalWidth .fold))

/-- The lines of blocks, up to the first that cannot be shown, and the fault then. -/
def print : List Block → List String × Option Fault
  | [] => ([], none)
  | block :: rest =>
    match block.lines with
    | .error fault => ([], some fault)
    | .ok lines =>
      let (more, fault?) := print rest
      (lines ++ more, fault?)

end Block

end Rechristen
