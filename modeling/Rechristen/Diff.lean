import Rechristen.Diff.Matching
import Rechristen.Text.Lines

/-!
# Unified diffs

The difference of two versions of a text: hunks of removed and added lines, each with up to three
unchanged lines around them.  Lines keep their line breaks.
-/

namespace Rechristen.Diff

/-- A stretch of the two versions that is the same or was changed. -/
structure Chunk where
  same : Bool
  oldFrom : Nat
  oldTo : Nat
  newFrom : Nat
  newTo : Nat
  deriving DecidableEq, Repr

/-- The chunks from two places on, by the matching blocks that follow. -/
def chunksFrom (i j : Nat) : List Block → List Chunk
  | [] => []
  | b :: rest =>
    let changed := if i < b.old || j < b.new then [⟨false, i, b.old, j, b.new⟩] else []
    let same :=
      if 0 < b.size then [⟨true, b.old, b.old + b.size, b.new, b.new + b.size⟩] else []
    changed ++ same ++ chunksFrom (b.old + b.size) (b.new + b.size) rest

/-- The chunks of two versions, in order. -/
def chunks (old new : Array String) : List Chunk :=
  chunksFrom 0 0 (blocks old new ++ [⟨old.size, new.size, 0⟩])

/-- The number of unchanged lines shown around a change. -/
def context : Nat := 3

/-- The end of an unchanged chunk that is shown before a change. -/
def Chunk.tail (c : Chunk) : Chunk :=
  if c.same then
    { c with oldFrom := max c.oldFrom (c.oldTo - context)
             newFrom := max c.newFrom (c.newTo - context) }
  else c

/-- The start of an unchanged chunk that is shown after a change. -/
def Chunk.head (c : Chunk) : Chunk :=
  if c.same then
    { c with oldTo := min c.oldTo (c.oldFrom + context)
             newTo := min c.newTo (c.newFrom + context) }
  else c

/-- The first chunk cut to what is shown before a change, and the last to what is shown after. -/
def trimEnds : List Chunk → List Chunk
  | [] => []
  | first :: rest =>
    let chunks := first.tail :: rest
    match chunks.getLast? with
    | some last => chunks.dropLast ++ [last.head]
    | none => chunks

/-- Chunks divided where more unchanged lines follow than are shown; `hunk` is the hunk begun. -/
def divide (hunk : List Chunk) : List Chunk → List (List Chunk)
  | [] => [hunk]
  | c :: rest =>
    if c.same && 2 * context < c.oldTo - c.oldFrom then
      (hunk ++ [c.head]) :: divide [c.tail] rest
    else divide (hunk ++ [c]) rest

/-- The hunks of two versions: groups of chunks with a change in them. -/
def hunks (old new : Array String) : List (List Chunk) :=
  (divide [] (trimEnds (chunks old new))).filter fun h => h.any (!·.same)

/-- The lines of a version that a hunk covers, as they stand in its heading. -/
def rangeText (start stop : Nat) : String :=
  let length := stop - start
  if length = 1 then toString (start + 1)
  else toString (if length = 0 then start else start + 1) ++ "," ++ toString length

/-- The heading of a hunk. -/
def heading (hunk : List Chunk) : String :=
  match hunk.head?, hunk.getLast? with
  | some first, some last =>
    "@@ -" ++ rangeText first.oldFrom last.oldTo ++ " +" ++ rangeText first.newFrom last.newTo ++
      " @@\n"
  | _, _ => ""

/-- The lines of a chunk, each with its mark. -/
def chunkLines (old new : Array String) (c : Chunk) : List String :=
  let oldLines := (old.toList.drop c.oldFrom).take (c.oldTo - c.oldFrom)
  let newLines := (new.toList.drop c.newFrom).take (c.newTo - c.newFrom)
  if c.same then oldLines.map (" " ++ ·)
  else oldLines.map ("-" ++ ·) ++ newLines.map ("+" ++ ·)

/-- The unified diff of two versions of the file called `name`; empty if they are the same. -/
def unified (name : String) (old new : String) : String :=
  let old := (Text.linesWithEnds old).toArray
  let new := (Text.linesWithEnds new).toArray
  match hunks old new with
  | [] => ""
  | hs =>
    "--- a/" ++ name ++ "\n+++ b/" ++ name ++ "\n" ++
      String.join (hs.map fun h => heading h ++ String.join (h.flatMap (chunkLines old new)))

end Rechristen.Diff
