/-!
# Tables of character ranges

Classes of characters are given as tables of closed ranges of code points, in ascending order.
-/

namespace Rechristen.Text

/-- Whether `n` lies in one of the closed ranges of a table. -/
def inRanges (table : Array (Nat × Nat)) (n : Nat) : Bool :=
  table.any fun (first, last) => first ≤ n && n ≤ last

end Rechristen.Text
