import Rechristen.Text.Affix

/-!
# What stands between the parts of a literal

Blanks and comments may stand between the parts of a literal, and a backslash at the end of a line
carries it on.  Inside brackets a line end is a blank too.
-/

namespace Rechristen.Literal

/-- The blanks within a line. -/
def isSpace (c : Char) : Bool :=
  c == ' ' || c == '\t' || c == '\x0c'

/-- Pass over blanks and comments.  `enclosed` tells that a bracket is open, and `comment` that a
comment has begun, which goes on to the end of its line. -/
def skipFrom (enclosed comment : Bool) : List Char → List Char
  | [] => []
  | c :: rest =>
    if c == '\n' then if enclosed then skipFrom enclosed false rest else c :: rest
    else if comment || isSpace c then skipFrom enclosed comment rest
    else if c == '#' then skipFrom enclosed true rest
    else
      match c, rest with
      | '\\', '\n' :: rest => skipFrom enclosed false rest
      | _, _ => c :: rest

/-- Pass over what may stand between two parts. -/
def skip (enclosed : Bool) (cs : List Char) : List Char :=
  skipFrom enclosed false cs

/-- Nothing but blanks, comments and line ends is left. -/
def isOver (cs : List Char) : Bool :=
  (skip true cs).isEmpty

/-- A line of blanks, with or without a comment, or one that is only carried on. -/
def isIdle (line : List Char) : Bool :=
  line == ['\\'] || (skip false line).isEmpty

/-- The text from the first line that is not idle, which has no blank in front. -/
def opening? (cs : List Char) : Option (List Char) :=
  let cs := ['\n'].intercalate ((Text.partsOf '\n' cs).dropWhile isIdle)
  if cs.head?.any fun c => c == ' ' || c == '\t' then none else some cs

end Rechristen.Literal
