import Rechristen.Text.Affix
import Rechristen.Text.Case

/-!
# Qualified names

A class is known by its qualified name: the segments of its namespace and its short name, joined by
backslashes.  A leading backslash is a way of writing a name and not part of it.  Two spellings
that differ only in letter case name the same class, so names are compared by their keys.
-/

namespace Rechristen

/-- A class name or namespace as it is written. -/
abbrev Name := String

namespace Name

/-- What separates the segments of a name. -/
def separator : Char := '\\'

/-- Whether a character is the separator. -/
def isSeparator (c : Char) : Bool := c == separator

/-- A name without leading separators. -/
def normalize (name : Name) : Name :=
  Text.trimStart isSeparator name

/-- The name of `short` inside a namespace; in the global namespace a name stands alone. -/
def qualify (space : Name) (short : Name) : Name :=
  let space := Text.trimEnd isSeparator (normalize space)
  if space.isEmpty then short else space ++ String.singleton separator ++ short

/-- The namespace of a name, without its leading separators. -/
def space (name : Name) : Name :=
  (Text.cutLast separator (normalize name)).1.getD ""

/-- The last segment of a name. -/
def short (name : Name) : Name :=
  (Text.cutLast separator (normalize name)).2

/-- The first segment of a name as it is written. -/
def first (name : Name) : Name :=
  (Text.cut separator name).1

/-- The name with another last segment; whatever stands before the last separator stays. -/
def withLast (name : Name) (last : Name) : Name :=
  match (Text.cutLast separator name).1 with
  | some before => before ++ String.singleton separator ++ last
  | none => last

/-- Whether a name has a separator. -/
def isCompound (name : Name) : Bool :=
  name.toList.contains separator

/-- The segments of a namespace, empty ones left out. -/
def segments (space : Name) : List String :=
  (Text.splitAt separator space).filter (!·.isEmpty)

/-- What two spellings of one name have in common. -/
structure Key where
  text : String
  deriving DecidableEq, Hashable, Repr

/-- The key of a name: its lower-case form without leading separators. -/
def key (name : Name) : Key :=
  ⟨Text.lowercase (normalize name)⟩

/-- The words that stand for a class relative to the one they are written in. -/
def relativeScopes : List String := ["self", "static", "parent"]

/-- Whether a written name stands for a class relative to the one it is written in. -/
def isRelativeScope (name : Name) : Bool :=
  relativeScopes.contains (Text.lowercase name)

end Name

end Rechristen
