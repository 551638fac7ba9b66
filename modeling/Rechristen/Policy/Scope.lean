import Rechristen.Declaration
import Rechristen.Text.Quoted

/-!
# Scopes

A convention may hold only in a part of the code: where a sequence of segments, such as
`Infrastructure/Repository`, occurs without gaps in the directory of a file or in a namespace.
-/

namespace Rechristen

/-- Where a declaration lives: its file, relative to the run, and its namespace. -/
structure Place where
  path : Path
  space : Name
  deriving DecidableEq

/-- The place of a declaration, in its file or in a file told. -/
def Declaration.place (d : Declaration) (path : Option Path) : Place :=
  ⟨path.getD d.path, d.space⟩

/-- A part of the code. -/
structure Scope where
  /-- The segments as they were written. -/
  written : String
  segments : List String
  deriving DecidableEq

namespace Scope

/-- The segments of a scope, separated by slashes or backslashes. -/
def segmentsOf (written : String) : List String :=
  (Text.splitAt '/' (Text.replaceChar Name.separator "/" written)).filter (!·.isEmpty)

/-- The scope a text writes, if it has a segment. -/
def ofString? (written : String) : Option Scope :=
  if (segmentsOf written).isEmpty then none else some ⟨written, segmentsOf written⟩

/-- What is said of a text without segments. -/
def emptyMessage : String := "ModuleScope needs at least one segment"

/-- A list occurs in another without gaps. -/
def occursIn (segments : List String) : List String → Bool
  | [] => segments.isEmpty
  | part :: rest => segments.isPrefixOf (part :: rest) || occursIn segments rest

/-- The scope occurs in the directory of a file. -/
def hasPath (s : Scope) (path : Path) : Bool :=
  occursIn s.segments path.parent.parts

/-- The scope occurs in a namespace. -/
def hasSpace (s : Scope) (space : Name) : Bool :=
  occursIn s.segments space.segments

/-- The scope occurs in the namespace of a name. -/
def hasName (s : Scope) (name : Name) : Bool :=
  s.hasSpace name.space

/-- The scope occurs in the directory or in the namespace of a place. -/
def hasPlace (s : Scope) (place : Place) : Bool :=
  s.hasPath place.path || s.hasSpace place.space

/-- The scope in one line. -/
def render (s : Scope) : String :=
  "ModuleScope(" ++ Text.quoted s.written ++ ")"

end Scope

end Rechristen
