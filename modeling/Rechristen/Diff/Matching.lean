import Std.Data.HashMap

/-!
# Matching blocks of two lists of lines

Two versions of a text are compared by their longest common stretch of lines, then in the same way
before it and after it.  Of several stretches of one length the one that starts first in the old
version counts, and of those the one that starts first in the new version.

In a new version of two hundred lines or more, a line that occurs very often tells little: a stretch
is not looked for at such a line, but a stretch that was found is extended over it.
-/

namespace Rechristen.Diff

/-- A stretch of `size` lines that starts at `old` in one version and at `new` in the other. -/
structure Block where
  old : Nat
  new : Nat
  size : Nat
  deriving DecidableEq, Repr

/-- Where each line occurs in the new version. -/
abbrev Occurrences := Std.HashMap String (List Nat)

/-- The occurrences of all lines, each from the first to the last. -/
def occurrencesOf (lines : Array String) : Occurrences :=
  lines.toList.zipIdx.reverse.foldl (fun m (line, i) => m.insert line (i :: m.getD line [])) ∅

/-- The most occurrences a line may have in a version of `n` lines before it is passed over. -/
def tolerance (n : Nat) : Nat := n / 100 + 1

/-- The occurrences at which stretches are looked for. -/
def telling (lines : Array String) : Occurrences :=
  let all := occurrencesOf lines
  if lines.size < 200 then all
  else all.filter fun _ places => places.length ≤ tolerance lines.size

/-- The lines of the two versions that are compared. -/
structure Window where
  oldFrom : Nat
  oldTo : Nat
  newFrom : Nat
  newTo : Nat

/-- One line of the old version against its occurrences: the stretches that end there, by the line
of the new version, and the best stretch so far. -/
def extendAt (w : Window) (i : Nat) (ending : Std.HashMap Nat Nat) :
    List Nat → Std.HashMap Nat Nat × Block → Std.HashMap Nat Nat × Block
  | [], state => state
  | j :: rest, (next, best) =>
    if j < w.newFrom then extendAt w i ending rest (next, best)
    else if w.newTo ≤ j then (next, best)
    else
      let size := (if j = 0 then 0 else ending.getD (j - 1) 0) + 1
      let best := if best.size < size then ⟨i + 1 - size, j + 1 - size, size⟩ else best
      extendAt w i ending rest (next.insert j size, best)

/-- The longest stretch at telling lines of a window. -/
def longest (old : Array String) (places : Occurrences) (w : Window) : Block :=
  ((List.range' w.oldFrom (w.oldTo - w.oldFrom)).foldl
    (fun (ending, best) i =>
      extendAt w i ending (places.getD (old.getD i "") []) (∅, best))
    ((∅ : Std.HashMap Nat Nat), ⟨w.oldFrom, w.newFrom, 0⟩)).2

/-- How many equal lines stand just before two places, at most `limit`. -/
def equalBefore (old new : Array String) (i j : Nat) : Nat → Nat
  | 0 => 0
  | limit + 1 =>
    if 0 < i && 0 < j && old.getD (i - 1) "" == new.getD (j - 1) "" then
      equalBefore old new (i - 1) (j - 1) limit + 1
    else 0

/-- How many equal lines stand from two places on, at most `limit`. -/
def equalAfter (old new : Array String) (i j : Nat) : Nat → Nat
  | 0 => 0
  | limit + 1 =>
    if old.getD i "" == new.getD j "" then equalAfter old new (i + 1) (j + 1) limit + 1 else 0

/-- The longest stretch of a window, extended over all equal lines on both sides. -/
def bestBlock (old new : Array String) (places : Occurrences) (w : Window) : Block :=
  let b := longest old places w
  let before := equalBefore old new b.old b.new (min (b.old - w.oldFrom) (b.new - w.newFrom))
  let after := equalAfter old new (b.old + b.size) (b.new + b.size)
    (min (w.oldTo - (b.old + b.size)) (w.newTo - (b.new + b.size)))
  ⟨b.old - before, b.new - before, before + b.size + after⟩

/-- The matching blocks of a window, in order.  Every block takes at least one line, so as many
levels as there are lines are enough. -/
def blocksIn (old new : Array String) (places : Occurrences) : Nat → Window → List Block
  | 0, _ => []
  | levels + 1, w =>
    let b := bestBlock old new places w
    if b.size = 0 then []
    else
      let left :=
        if w.oldFrom < b.old && w.newFrom < b.new then
          blocksIn old new places levels ⟨w.oldFrom, b.old, w.newFrom, b.new⟩
        else []
      let right :=
        if b.old + b.size < w.oldTo && b.new + b.size < w.newTo then
          blocksIn old new places levels ⟨b.old + b.size, w.oldTo, b.new + b.size, w.newTo⟩
        else []
      left ++ b :: right

/-- Blocks with neighbours joined. -/
def join : List Block → List Block
  | a :: b :: rest =>
    if a.old + a.size = b.old && a.new + a.size = b.new then
      join (⟨a.old, a.new, a.size + b.size⟩ :: rest)
    else a :: join (b :: rest)
  | blocks => blocks
termination_by blocks => blocks.length

/-- The matching blocks of two versions, in order. -/
def blocks (old new : Array String) : List Block :=
  join (blocksIn old new (telling new) (old.size + 1) ⟨0, old.size, 0, new.size⟩)

end Rechristen.Diff
