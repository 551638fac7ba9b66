import Rechristen.Reference

/-!
# What a written name stands for

A name is read in a namespace, with the imports of that namespace.  A leading separator makes it
complete; the word `namespace` in front stands for the namespace itself; a first segment bound by
an import stands for what is imported; any other name belongs to the namespace.  Segments are
compared without regard to letter case, and of two imports that bind one segment the later counts.
-/

namespace Rechristen

/-- How names are read in one namespace of one file. -/
structure Resolver where
  /-- The namespace. -/
  space : Name
  /-- The imports that count there, in the order of the file. -/
  imports : List Reference

namespace Resolver

/-- The way names are read in a namespace of a file with these references. -/
def ofReferences (space : Name) (references : List Reference) : Resolver where
  space := space
  imports := references.filter fun r => r.kind = .import_ && r.space = space

/-- The segment an import binds, in lower case. -/
def boundBy (r : Reference) : String :=
  Text.lowercase r.localName

/-- The import that binds a segment: the last one that does. -/
def binding? (r : Resolver) (segment : Name) : Option Reference :=
  r.imports.reverse.find? fun i => boundBy i = Text.lowercase segment

/-- The qualified name a written name stands for. -/
def resolve (r : Resolver) (name : Name) : Name :=
  if Text.begins name (String.singleton Name.separator) then name.normalize
  else
    match Text.cut Name.separator name with
    | (first, some rest) =>
      if Text.lowercase first = "namespace" then Name.qualify r.space rest
      else
        match r.binding? first with
        | some i => i.imported ++ String.singleton Name.separator ++ rest
        | none => Name.qualify r.space name
    | (first, none) =>
      match r.binding? first with
      | some i => i.imported
      | none => Name.qualify r.space name

/-- Some import binds the first segment of a name under an alias. -/
def isAliased (r : Resolver) (name : Name) : Bool :=
  r.imports.any fun i => i.alias?.isSome && boundBy i = Text.lowercase name.first

/-- Some import binds the first segment of a name. -/
def isImported (r : Resolver) (name : Name) : Bool :=
  r.imports.any fun i => boundBy i = Text.lowercase name.first

/-- The bound segments in order of first occurrence, each with what it stands for. -/
def bindings (r : Resolver) : List (String × Name) :=
  (r.imports.map boundBy).eraseDups.filterMap fun segment =>
    (r.imports.reverse.find? fun i => boundBy i = segment).map fun i => (segment, i.imported)

/-- The segments that some import binds under an alias. -/
def aliased (r : Resolver) : List String :=
  ((r.imports.filter fun i => i.alias?.isSome).map boundBy).eraseDups

end Resolver

end Rechristen
