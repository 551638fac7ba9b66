import Rechristen.Name
import Rechristen.Path
import Rechristen.Span

/-!
# Declarations

A declaration introduces a class, an interface, a trait or an enumeration under a name, in a
namespace and in a file.  Its short name changes when it is renamed; the name of its parent stays as
it was when the file was read.
-/

namespace Rechristen

/-- What a declaration introduces. -/
inductive Kind where
  | class_
  | interface
  | trait
  | enum
  deriving DecidableEq, Repr

namespace Kind

/-- The word for a kind. -/
def word : Kind → String
  | class_ => "class"
  | interface => "interface"
  | trait => "trait"
  | enum => "enum"

/-- The kind a word stands for. -/
def ofWord? (word : String) : Option Kind :=
  [class_, interface, trait, enum].find? (·.word == word)

end Kind

/-- A named declaration at the top level of a file. -/
structure Declaration where
  /-- The name it has now. -/
  shortName : Name
  /-- The namespace it lives in. -/
  space : Name
  kind : Kind
  /-- The file it stands in. -/
  path : Path
  isAbstract : Bool := false
  /-- What it extends, as written. -/
  parentWritten : Option Name := none
  /-- What it extends, as a qualified name. -/
  parent : Option Name := none
  /-- Where its name stands in the file. -/
  nameSpan : Option ByteSpan := none
  /-- The line it starts on, counted from one. -/
  line : Int := 0
  /-- The parameter names of each method, by lower-case method name. -/
  methods : List (String × List String) := []
  /-- The file is named after it. -/
  ownsFile : Bool := false
  /-- Where its file is planned to go. -/
  plannedPath : Option Path := none
  deriving DecidableEq

namespace Declaration

/-- The qualified name. -/
def name (d : Declaration) : Name :=
  Name.qualify d.space d.shortName

/-- The key of the qualified name. -/
def key (d : Declaration) : Name.Key :=
  d.name.key

/-- The declaration in one line. -/
def render (d : Declaration) : String :=
  "Declaration(" ++ d.kind.word ++ " " ++ d.name ++ " @ " ++ d.path.toString ++ ")"

/-- The declaration with the parameters of a method; a method that is there gets new ones. -/
def putMethod (d : Declaration) (method : String) (parameters : List String) : Declaration :=
  if d.methods.any fun m => m.1 == method then
    { d with methods := d.methods.map fun m => if m.1 == method then (method, parameters) else m }
  else { d with methods := d.methods ++ [(method, parameters)] }

/-- The parameters of a method. -/
def parametersOf? (d : Declaration) (method : String) : Option (List String) :=
  d.methods.lookup method

end Declaration

/-- A declaration's place in the list of all declarations of a session. -/
abbrev DeclarationId := Nat

end Rechristen
