import Rechristen.Text.Affix
import Rechristen.Text.Quoted

/-!
# File paths

A path is an anchor (nothing, one slash or two) and a list of names.  Empty parts and single dots
are dropped when a path is read; `..` is kept, because only a file tree can tell where it leads.
Paths are compared part by part, with the anchor as first part.
-/

namespace Rechristen

/-- A file path. -/
structure Path where
  anchor : String
  names : List String
  deriving DecidableEq, Hashable, Repr

namespace Path

/-- Two leading slashes are kept, any other number of them is one slash. -/
def anchorOf (cs : List Char) : String :=
  match (cs.takeWhile (· == '/')).length with
  | 0 => ""
  | 2 => "//"
  | _ => "/"

/-- The path a text writes. -/
def ofString (s : String) : Path where
  anchor := anchorOf s.toList
  names := (Text.splitAt '/' s).filter fun part => part != "" && part != "."

/-- The names of a path with its anchor, if it has one. -/
def parts (p : Path) : List String :=
  if p.anchor.isEmpty then p.names else p.anchor :: p.names

/-- The path as text; the empty path is a dot. -/
def toString (p : Path) : String :=
  if p.parts.isEmpty then "." else p.anchor ++ "/".intercalate p.names

instance : ToString Path := ⟨toString⟩

/-- The path starts at the root. -/
def isAbsolute (p : Path) : Bool :=
  !p.anchor.isEmpty

/-- The last name of a path, or the empty text if it has none. -/
def name (p : Path) : String :=
  p.names.getLast?.getD ""

/-- The path without its last name. -/
def parent (p : Path) : Path :=
  { p with names := p.names.dropLast }

/-- The path with one more name. -/
def child (p : Path) (name : String) : Path :=
  { p with names := p.names ++ [name] }

/-- A path read from the place of another: an absolute one stands for itself. -/
def join (base p : Path) : Path :=
  if p.isAbsolute then p else { base with names := base.names ++ p.names }

/-- Where the suffix of a file name starts: at its last dot, unless that is the first or the last
character. -/
def suffixStart? (name : String) : Option Nat :=
  match Text.cutLast '.' name with
  | (some before, after) => if before.isEmpty || after.isEmpty then none else some before.length
  | (none, _) => none

/-- The suffix of the last name, with its dot. -/
def suffix (p : Path) : String :=
  match suffixStart? p.name with
  | some n => Text.dropStart p.name n
  | none => ""

/-- The last name without its suffix. -/
def stem (p : Path) : String :=
  match suffixStart? p.name with
  | some n => String.ofList (p.name.toList.take n)
  | none => p.name

/-- Why a path cannot get another last name. -/
inductive NameError where
  /-- The path has no last name. -/
  | nameless (path : Path)
  /-- The new name is not a file name. -/
  | invalid (name : String)
  deriving DecidableEq, Repr

/-- The text of a refusal. -/
def NameError.message : NameError → String
  | nameless path => "PosixPath(" ++ Text.quoted (Path.toString path) ++ ") has an empty name"
  | invalid name => "Invalid name " ++ Text.quoted name

/-- Whether a text is the name of one file. -/
def isFileName (name : String) : Bool :=
  !Text.begins name "/" && !Text.ends name "/" && (ofString name).names.length == 1

/-- The path with another last name. -/
def withName (p : Path) (name : String) : Except NameError Path :=
  if p.name.isEmpty then .error (.nameless p)
  else if isFileName name then .ok { p with names := p.names.dropLast ++ [name] }
  else .error (.invalid name)

/-- The path read once more, name by name.  A name that was given to a file may hold slashes and
dots that have no meaning. -/
def normal (p : Path) : Path :=
  { p with names := p.names.flatMap fun name => (ofString name).names }

/-- A name holds a null character, which no file name can. -/
def hasNull (p : Path) : Bool :=
  p.names.any fun name => name.toList.contains '\x00'

/-- The rest of a path below `root`, if it lies there. -/
def relativeTo? (p root : Path) : Option Path :=
  if p.anchor = root.anchor && root.names.isPrefixOf p.names then
    some ⟨"", p.names.drop root.names.length⟩
  else none

/-- The order of paths: part by part. -/
def le (a b : Path) : Bool :=
  (compare a.parts b.parts).isLE

/-- The names of a path with every `..` led back. -/
def collapse (names : List String) : List String :=
  names.foldl (fun above name => if name = ".." then above.dropLast else above ++ [name]) []

end Path

end Rechristen
