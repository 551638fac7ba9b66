import Rechristen.Path
import Rechristen.Text.Encoding

/-!
# File trees

The files and directories a run works on, as a value.  A tree is a list of entries, each at its
location: the names that lead to it from the root.  The root itself is always a directory and has
no entry.  There are no links, so a location is the same place however it was written.

Directories are made, and entries are moved, without looking into any file: a move changes the
locations of entries and nothing else.
-/

namespace Rechristen

/-- The names that lead from the root to an entry. -/
abbrev Location := List String

/-- What is found at a location. -/
inductive Entry where
  | file (content : Bytes)
  | directory
  deriving DecidableEq

namespace Entry

/-- The content, if it is a file. -/
def content? : Entry → Option Bytes
  | file content => some content
  | directory => none

/-- Whether the entry is a directory. -/
def isDirectory : Entry → Bool
  | file _ => false
  | directory => true

end Entry

/-- The files and directories below the root, and the directory that relative paths start from. -/
structure FileTree where
  home : Location
  entries : List (Location × Entry)
  deriving DecidableEq

namespace FileTree

/-- What is found at a location. -/
def at? (t : FileTree) (place : Location) : Option Entry :=
  if place.isEmpty then some .directory else t.entries.lookup place

/-- Whether a location is a directory. -/
def isDirectoryAt (t : FileTree) (place : Location) : Bool :=
  (t.at? place).any Entry.isDirectory

/-- Why a path leads nowhere. -/
inductive Obstacle where
  /-- A name on the way is not there. -/
  | missing
  /-- A name on the way is a file. -/
  | blocked
  /-- A name on the way, or the whole path, is too long. -/
  | tooLong
  /-- A name holds a null character. -/
  | unnameable
  deriving DecidableEq, Repr

/-- The most bytes of a name. -/
def longestName : Nat :=
  255

/-- The most bytes of a path. -/
def longestPath : Nat :=
  4095

/-- Follow names from a place.  Every place that is left must be a directory; the last name need
not be there. -/
def follow (t : FileTree) (place : Location) : List String → Except Obstacle Location
  | [] => .ok place
  | name :: rest =>
    match t.at? place with
    | none => .error .missing
    | some (.file _) => .error .blocked
    | some .directory =>
      if longestName < name.utf8ByteSize then .error .tooLong
      else
        t.follow
          (if name = ".." then place.dropLast
            else if name = "." then place
            else place ++ [name]) rest

/-- Why a path leads nowhere in any tree. -/
def refused? (p : Path) : Option Obstacle :=
  if p.hasNull then some .unnameable
  else if longestPath < p.toString.utf8ByteSize then some .tooLong
  else none

/-- Where a path starts. -/
def start (t : FileTree) (p : Path) : Location :=
  if p.isAbsolute then [] else t.home

/-- Where a path leads. -/
def locate (t : FileTree) (p : Path) : Except Obstacle Location :=
  match refused? p with
  | some obstacle => .error obstacle
  | none => t.follow (t.start p) p.names

/-- What stands at a path, if anything.  A path that is too long cannot be looked at. -/
def look (t : FileTree) (p : Path) : Except Obstacle (Option Entry) :=
  match t.locate p with
  | .ok place => .ok (t.at? place)
  | .error .tooLong => .error .tooLong
  | .error _ => .ok none

/-- What a path leads to. -/
def get? (t : FileTree) (p : Path) : Option Entry :=
  match t.locate p with
  | .ok place => t.at? place
  | .error _ => none

/-- Whether a path leads to an entry. -/
def hasEntry (t : FileTree) (p : Path) : Bool :=
  (t.get? p).isSome

/-- Whether a path leads to a directory. -/
def hasDirectory (t : FileTree) (p : Path) : Bool :=
  (t.get? p).any Entry.isDirectory

/-- The content of the file a path leads to. -/
def contentOf? (t : FileTree) (p : Path) : Option Bytes :=
  (t.get? p).bind Entry.content?

/-- The path without `..` and relative to nothing, whether or not it leads anywhere. -/
def resolve (t : FileTree) (p : Path) : Path where
  anchor := "/"
  names := Path.collapse (if p.isAbsolute then p.names else t.home ++ p.names)

/-- The tree with an entry put at a location. -/
def put (t : FileTree) (place : Location) (entry : Entry) : FileTree :=
  if (t.entries.lookup place).isSome then
    { t with entries := t.entries.map fun e => if e.1 = place then (place, entry) else e }
  else { t with entries := t.entries ++ [(place, entry)] }

/-- Write a file.  A path that leads to no file, and whose directory is not there, is left alone. -/
def write (t : FileTree) (p : Path) (content : Bytes) : FileTree :=
  match t.locate p with
  | .ok place => if place.isEmpty || t.isDirectoryAt place then t else t.put place (.file content)
  | .error _ => t

/-- What stopped the making of a directory, if it failed, and the tree afterwards. -/
structure Making where
  obstacle : Option Obstacle
  tree : FileTree

/-- Whether making a directory succeeded. -/
def Making.made (m : Making) : Bool :=
  m.obstacle.isNone

/-- Make one directory whose parent is there; one that is there already will do. -/
def makeDirectoryAt (t : FileTree) (place : Location) : Making :=
  match t.at? place with
  | some .directory => ⟨none, t⟩
  | some (.file _) => ⟨some .blocked, t⟩
  | none => ⟨none, t.put place .directory⟩

/-- Make the directory reached by names given from the last to the first, and those above it.
Directories made before a failure stay. -/
def makeDirectoriesUp (t : FileTree) (start : Location) : List String → Making
  | [] => ⟨if t.isDirectoryAt start then none else some .blocked, t⟩
  | name :: above =>
    match t.follow start (name :: above).reverse with
    | .ok place => t.makeDirectoryAt place
    | .error .missing =>
      let upper := t.makeDirectoriesUp start above
      if upper.made then
        match upper.tree.follow start (name :: above).reverse with
        | .ok place => upper.tree.makeDirectoryAt place
        | .error obstacle => ⟨some obstacle, upper.tree⟩
      else upper
    | .error obstacle => ⟨some obstacle, t⟩

/-- Make the directory a path names, and those above it. -/
def makeDirectories (t : FileTree) (p : Path) : Making :=
  match refused? p with
  | some obstacle => ⟨some obstacle, t⟩
  | none => t.makeDirectoriesUp (t.start p) p.names.reverse

/-- The location of an entry after everything at `source` moved to `target`. -/
def relocate (source target place : Location) : Location :=
  if source.isPrefixOf place then target ++ place.drop source.length else place

/-- A path names an entry: its last name is there and leads downwards. -/
def isNamed (p : Path) : Bool :=
  p.names.getLast?.any (· ≠ "..")

/-- Move what stands at `source`, with all below it, to `target`, where nothing is.  The directory
of the target has to be there and must not move along, and the source must be called by its name. -/
def move? (t : FileTree) (source target : Path) : Option FileTree :=
  match t.locate source, t.locate target with
  | .ok place, .ok target =>
    if !isNamed source || place.isEmpty || (t.at? place).isNone || place.isPrefixOf target then none
    else some { t with entries := t.entries.map fun e => (relocate place target e.1, e.2) }
  | _, _ => none

/-- The contents of all files, in the order of the entries. -/
def contents (t : FileTree) : List Bytes :=
  t.entries.filterMap fun e => e.2.content?

/-- The names and entries found directly in a directory. -/
def children (t : FileTree) (place : Location) : List (String × Entry) :=
  t.entries.filterMap fun e =>
    if e.1.dropLast = place then e.1.getLast?.map fun name => (name, e.2) else none

/-- The length of the longest location. -/
def depth (t : FileTree) : Nat :=
  t.entries.foldl (fun n e => max n e.1.length) 0

/-! ## Listing -/

/-- The written form of a location. -/
def written (place : Location) : String :=
  "/" ++ "/".intercalate place

/-- An entry lies below a directory. -/
def isBelow (directory place : Location) : Bool :=
  directory.isPrefixOf place && directory.length < place.length

/-- The files and the empty directories below the home directory, sorted by their written form. -/
def listing (t : FileTree) : List (String × Entry) :=
  let within := t.entries.filter fun e => isBelow t.home e.1
  let leaves := within.filter fun (place, e) =>
    !e.isDirectory || !within.any fun other => isBelow place other.1
  (leaves.map fun (place, e) => (written place, e)).mergeSort fun a b => decide (a.1 ≤ b.1)

end FileTree

end Rechristen
