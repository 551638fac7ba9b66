import Rechristen.Name
import Rechristen.Span

/-!
# References

A reference is an occurrence of a class name that is not its declaration.  It is an import clause,
a bare name or a name with separators.  A reference holds the text that stands there now, so a
respelled reference reads like a new one.
-/

namespace Rechristen

/-- How a reference names its class. -/
inductive ReferenceKind where
  /-- A clause that imports the class, perhaps under another name. -/
  | import_
  /-- A single segment. -/
  | bare
  /-- A name with separators. -/
  | qualified
  deriving DecidableEq, Repr

namespace ReferenceKind

/-- The word for a kind. -/
def word : ReferenceKind → String
  | import_ => "import"
  | bare => "name"
  | qualified => "qualified"

/-- The kind a word stands for. -/
def ofWord? (word : String) : Option ReferenceKind :=
  [import_, bare, qualified].find? (·.word == word)

end ReferenceKind

/-- An occurrence of a class name. -/
structure Reference where
  /-- The name as written. -/
  name : Name
  kind : ReferenceKind
  span : ByteSpan
  /-- The namespace it stands in. -/
  space : Name := ""
  /-- The name an import binds instead of the last segment. -/
  aliasName : Option Name := none
  aliasSpan : Option ByteSpan := none
  /-- The common beginning of the group an import stands in. -/
  group : Option Name := none
  deriving DecidableEq

namespace Reference

/-- The alias of an import, if it has one that is not empty. -/
def alias? (r : Reference) : Option Name :=
  r.aliasName.filter (!·.isEmpty)

/-- The group an import stands in, if its beginning is not empty. -/
def group? (r : Reference) : Option Name :=
  r.group.filter (!·.isEmpty)

/-- The name an import binds in its file. -/
def localName (r : Reference) : Name :=
  r.alias?.getD r.name.short

/-- The qualified name an import stands for. -/
def imported (r : Reference) : Name :=
  match r.group? with
  | some group => Name.qualify group r.name.normalize
  | none => r.name.normalize

end Reference

end Rechristen
