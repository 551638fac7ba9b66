import Rechristen.Console.Emoji
import Rechristen.Console.Literal
import Rechristen.Console.Style
import Rechristen.Text.Word

/-!
# Markup

A text for the terminal can hold tags in brackets.  A tag opens a style, and a tag with a slash
closes it: the one that it names, or the last one.  A bracket that begins no tag stands for itself,
and so does a tag behind a backslash.  Names between colons stand for emoji.  Here the styles do not
matter, so that what is left is the plain text; but a tag that closes nothing is a fault.
-/

namespace Rechristen.Markup

/-- A part of a text with markup. -/
inductive Piece where
  | plain (text : List Char)
  | tag (text : List Char)

/-- The characters that begin a tag. -/
def beginsTag (c : Char) : Bool :=
  ('a' ≤ c && c ≤ 'z') || c == '#' || c == '/' || c == '@'

/-- The characters up to a closing bracket, if no bracket opens before it. -/
def upToBracket? : List Char → Option (List Char)
  | [] => none
  | c :: rest =>
    if c == ']' then some [] else if c == '[' then none else (upToBracket? rest).map (c :: ·)

/-- What stands in the brackets of a tag at the start of a text. -/
def tag? : List Char → Option (List Char)
  | '[' :: c :: rest => if beginsTag c then (upToBracket? rest).map (c :: ·) else none
  | _ => none

/-- A tag with the backslashes in front of it. -/
structure Mark where
  backslashes : Nat
  text : List Char

/-- The tag at the start of a text, with the backslashes in front of it. -/
def mark? (cs : List Char) : Option Mark :=
  let backslashes := (cs.takeWhile (· == '\\')).length
  (tag? (cs.drop backslashes)).map (⟨backslashes, ·⟩)

namespace Mark

/-- The number of characters of a tag and its backslashes. -/
def length (m : Mark) : Nat :=
  m.backslashes + m.text.length + 2

/-- What a tag stands for: two backslashes make one, and one alone makes the tag plain. -/
def pieces (m : Mark) : List Piece :=
  let literal := List.replicate (m.backslashes / 2) '\\'
  (if literal.isEmpty then [] else [.plain literal]) ++
    [if m.backslashes % 2 = 1 then .plain ('[' :: m.text ++ [']']) else .tag m.text]

end Mark

/-- The plain text that was read, last character first. -/
def flush (read : List Char) : List Piece :=
  if read.isEmpty then [] else [.plain read.reverse]

/-- The parts of a text, after the next `skip` characters, which are dealt with. -/
def piecesFrom (skip : Nat) (read : List Char) : List Char → List Piece
  | [] => flush read
  | c :: rest =>
    match skip with
    | k + 1 => piecesFrom k read rest
    | 0 =>
      match mark? (c :: rest) with
      | some m => flush read ++ m.pieces ++ piecesFrom (m.length - 1) [] rest
      | none => piecesFrom 0 (c :: read) rest

/-- A bracket behind a backslash is a bracket. -/
def openBrackets : List Char → List Char
  | [] => []
  | '\\' :: '[' :: rest => '[' :: openBrackets rest
  | c :: rest => c :: openBrackets rest

/-- The characters a terminal would act on are left out. -/
def isControl (c : Char) : Bool :=
  c == '\x07' || c == '\x08' || c == '\x0b' || c == '\x0c' || c == '\r'

/-- The plain text of a part without tags. -/
def plainChars (text : List Char) : List Char :=
  (Emoji.replace (openBrackets text)).filter fun c => !isControl c

/-! ## Tags -/

/-- A tag that is open. -/
structure OpenTag where
  name : String
  /-- What stands behind the equals sign. -/
  given : Option String

/-- Markup that cannot be read. -/
def fault (message : String) : Fault :=
  .plain "MarkupError" message

/-- The arguments of a handler: what follows its name in parentheses, or all if there is no name in
front. -/
def handlerArguments (given : List Char) : List Char :=
  match given.dropWhile fun c => Text.isWordChar c || c == '.' with
  | [] => ['(', ')']
  | '(' :: rest =>
    if rest.getLast? = some ')' && !rest.contains '\n' then '(' :: rest else given
  | _ => given

/-- The words that tell the style of a tag. -/
def OpenTag.style (t : OpenTag) : String :=
  match t.given with
  | none => t.name
  | some given => t.name ++ " " ++ given

/-- Close a tag, which gives the words of its style.  A tag with a handler has none, and the handler
is looked at only now. -/
def finish (t : OpenTag) : Except Fault (List String) :=
  let given := (t.given.getD "").toList
  if !Text.begins t.name "@" then .ok [t.style]
  else if !given.isEmpty &&
      !Literal.isLiteral (handlerArguments (Text.trimBlanks (String.ofList given)).toList) then
    .error (fault ("error parsing " ++ Text.quoted (String.ofList given)))
  else .ok []

/-- Close the last open tag with a name, or the last one: the tags that are still open, and the
words of the style. -/
def close (stack : List OpenTag) (name : String) :
    Except Fault (List OpenTag × List String) := do
  if name.isEmpty then
    match stack with
    | [] => .error (fault "closing tag '[/]' has nothing to close")
    | t :: rest => return (rest, ← finish t)
  else
    let wanted ← Style.nameOf name
    match stack.find? (·.name == wanted) with
    | none => .error (fault ("closing tag '[/" ++ name ++ "]' doesn't match any open tag"))
    | some t => return (stack.eraseP (·.name == wanted), ← finish t)

/-- The open tags after one more tag, and the words of a style that ends with it. -/
def turn (stack : List OpenTag) (tag : List Char) :
    Except Fault (List OpenTag × List String) := do
  let (name, given) := Text.cut '=' (String.ofList tag)
  match name.toList with
  | '/' :: rest => close stack (Text.trimBlanks (String.ofList rest))
  | _ => return (⟨← Style.nameOf name, given⟩ :: stack, [])

/-! ## Texts -/

/-- What was read of a text with markup: its plain characters, and the words of all styles. -/
structure Marked where
  plain : List Char
  styles : List String

/-- What some parts are read as.  A tag that is never closed ends with the text. -/
def readFrom (stack : List OpenTag) : List Piece → Except Fault Marked
  | [] => .ok ⟨[], stack.map OpenTag.style⟩
  | .plain text :: rest =>
    (readFrom stack rest).map fun m => { m with plain := plainChars text ++ m.plain }
  | .tag text :: rest => do
    let (stack, ended) ← turn stack text
    let m ← readFrom stack rest
    return { m with styles := ended ++ m.styles }

/-- What a text with markup is read as. -/
def read (s : String) : Except Fault Marked :=
  readFrom [] (piecesFrom 0 [] s.toList)

/-- The plain text of a text with markup. -/
def plain (s : String) : Except Fault String :=
  (read s).map fun m => String.ofList m.plain

/-- The plain text of a text with markup that is shown.  Words that tell no style are passed over,
but numbers in them have to be numbers. -/
def shown (s : String) : Except Fault String := do
  let m ← read s
  for words in m.styles do discard (Style.nameOf words)
  return String.ofList m.plain

end Rechristen.Markup
