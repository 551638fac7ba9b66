import Rechristen.Declaration
import Rechristen.Registry

/-!
# The table of declarations

The table finds a declaration by its present name.  It holds places in the session's list of
declarations, so a renamed declaration is found again after it was entered under its new name.  Of
two declarations with one name the first is in the table.
-/

namespace Rechristen

/-- Declarations by the key of their present name and by the file they stand in. -/
structure DeclarationTable where
  byName : List (Name.Key × DeclarationId) := []
  byPath : List (Path × List DeclarationId) := []
  deriving DecidableEq

namespace DeclarationTable

/-- The declaration with a key. -/
def find? (t : DeclarationTable) (key : Name.Key) : Option DeclarationId :=
  t.byName.lookup key

/-- The declaration with a name. -/
def get? (t : DeclarationTable) (name : Name) : Option DeclarationId :=
  t.find? name.key

/-- Whether a name is declared. -/
def contains (t : DeclarationTable) (name : Name) : Bool :=
  (t.get? name).isSome

/-- The number of names. -/
def size (t : DeclarationTable) : Nat :=
  t.byName.length

/-- The declarations in the order of the table. -/
def ids (t : DeclarationTable) : List DeclarationId :=
  t.byName.map Prod.snd

/-- The declarations entered for a file. -/
def inFile (t : DeclarationTable) (path : Path) : List DeclarationId :=
  (t.byPath.lookup path).getD []

/-- The entries with one more; a key that is there keeps its place. -/
def putKey (entries : List (Name.Key × DeclarationId)) (key : Name.Key) (id : DeclarationId) :
    List (Name.Key × DeclarationId) :=
  if entries.any fun e => e.1 = key then entries.map fun e => if e.1 = key then (key, id) else e
  else entries ++ [(key, id)]

/-- The files with one more declaration. -/
def putPath (files : List (Path × List DeclarationId)) (path : Path) (id : DeclarationId) :
    List (Path × List DeclarationId) :=
  if files.any fun f => f.1 = path then
    files.map fun f => if f.1 = path then (path, f.2 ++ [id]) else f
  else files ++ [(path, [id])]

/-- The declaration that holds a name and is another one than `id`. -/
def rival? (t : DeclarationTable) (name : Name) (id : DeclarationId) : Option DeclarationId :=
  (t.get? name).filter (· ≠ id)

/-- The table with a declaration that has no rival. -/
def enter (t : DeclarationTable) (id : DeclarationId) (d : Declaration) : DeclarationTable where
  byName := putKey t.byName d.key id
  byPath := putPath t.byPath d.path id

/-- Enter a declaration, unless another one has its name. -/
def add (t : DeclarationTable) (id : DeclarationId) (d : Declaration) : Bool × DeclarationTable :=
  match t.rival? d.name id with
  | some _ => (false, t)
  | none => (true, t.enter id d)

/-- What is reported of a declaration whose name another one has. -/
def duplicateEvent (d first : Declaration) : Event :=
  ⟨.warning, "duplicate_declaration",
    [("fqn", .text d.name), ("file", .text d.path.toString),
      ("first_seen", .text first.path.toString)]⟩

/-- The table after a declaration that was called `old` got its present name. -/
def rename (t : DeclarationTable) (old : Name) (id : DeclarationId) (d : Declaration) :
    DeclarationTable :=
  let kept := if t.get? old = some id then t.byName.filter fun e => e.1 ≠ old.key else t.byName
  { t with byName := putKey kept d.key id }

/-- Follow the parents of a class until one defines a method.  `seen` are the keys met so far; a
key met again ends the search.  Every step meets a key of the table that was not met before, so as
many steps as the table has entries are enough. -/
def searchParameters (t : DeclarationTable) (declarations : List Declaration)
    (present : Name → Name) (method : String) :
    Nat → List Name.Key → Name → Option (List String)
  | 0, _, _ => none
  | steps + 1, seen, name =>
    let key := (present name).key
    if key ∈ seen then none
    else
      match (t.find? key).bind (declarations[·]?) with
      | none => none
      | some d =>
        match d.parametersOf? method with
        | some parameters => some parameters
        | none =>
          match d.parent with
          | none => none
          | some parent => t.searchParameters declarations present method steps (key :: seen) parent

/-- The parameter names of a method, by its nearest definition among a class and the classes it
extends.  Names are brought up to date by the registry, if one is given. -/
def parameters (t : DeclarationTable) (declarations : List Declaration) (registry : Option Registry)
    (name : Name) (method : String) : Option (List String) :=
  t.searchParameters declarations (fun n => (registry.map (·.resolve n)).getD n)
    (Text.lowercase method) (t.size + 1) [] name

end DeclarationTable

end Rechristen
