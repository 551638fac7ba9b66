import Rechristen.FileTree
import Rechristen.Log.Event
import Rechristen.Settings
import Rechristen.Text.Case

/-!
# Finding source files

The files of a directory and of the directories below it, except those that are excluded by name or
by their path from the root.  A file counts if its suffix is one of those asked for, in any letter
case, and if it is not too large.
-/

namespace Rechristen

namespace Discovery

/-- Names in order, with what belongs to them. -/
def sortByName {α : Type} (entries : List (String × α)) : List (String × α) :=
  entries.mergeSort fun a b => decide (a.1 ≤ b.1)

/-- The files directly in a directory. -/
def filesIn (tree : FileTree) (place : Location) : List (String × Bytes) :=
  sortByName ((tree.children place).filterMap fun e => e.2.content?.map fun c => (e.1, c))

/-- The names of the directories directly in a directory. -/
def directoriesIn (tree : FileTree) (place : Location) : List String :=
  (sortByName ((tree.children place).filter fun e => e.2.isDirectory)).map Prod.fst

/-- The text of an excluded directory without slashes at its ends. -/
def excludedText (written : String) : String :=
  Text.trim (· == '/') (Path.ofString written).toString

/-- A directory is excluded by its name or by its path from the root. -/
def isExcluded (excluded : List String) (above : List String) (name : String) : Bool :=
  excluded.contains name || excluded.contains ("/".intercalate (above ++ [name]))

/-- The files below a directory with their names from the root: those of the directory first, then
those of its directories, `depth` levels down. -/
def walk (tree : FileTree) (excluded : List String) (root : Location) :
    Nat → List String → List (List String × Bytes)
  | 0, _ => []
  | depth + 1, above =>
    (filesIn tree (root ++ above)).map (fun f => (above ++ [f.1], f.2)) ++
      ((directoriesIn tree (root ++ above)).filter (!isExcluded excluded above ·)).flatMap
        fun name => walk tree excluded root depth (above ++ [name])

/-- A path has one of the suffixes, in any letter case. -/
def hasExtension (s : DiscoverySettings) (p : Path) : Bool :=
  (s.extensions.map Text.lowercase).contains (Text.lowercase p.suffix)

/-- What is reported of a file that is too large. -/
def tooLargeEvent (p : Path) : Event :=
  ⟨.info, "file_skipped", [("file", .text p.toString), ("reason", .text "too_large")]⟩

/-- A file of the walk that is not too large. -/
def fits (s : DiscoverySettings) (content : Bytes) : Bool :=
  decide ((content.length : Int) ≤ s.maxFileSize)

/-- The source files below a directory, in order, and what is reported. -/
def below (tree : FileTree) (s : DiscoverySettings) (root : Path) (place : Location) :
    List Path × List Event :=
  let candidates :=
    ((walk tree (s.excludeDirs.map excludedText) place (tree.depth + 1) []).map fun f =>
      (({ root with names := root.names ++ f.1 } : Path), f.2)).filter fun f => hasExtension s f.1
  (((candidates.filter fun f => fits s f.2).map Prod.fst).mergeSort Path.le,
    (candidates.filter fun f => !fits s f.2).map fun f => tooLargeEvent f.1)

/-- The source files at a path, in order, and what is reported.  A path that leads nowhere has none,
unless it cannot be looked at. -/
def discover (tree : FileTree) (s : DiscoverySettings) (root : Path) :
    Except Failure (List Path × List Event) :=
  match tree.locate root with
  | .error .tooLong => .error (.tooLong root)
  | .error .unnameable => .error (.unnameable root)
  | .error _ => .ok ([], [])
  | .ok place =>
    match tree.at? place with
    | none => .ok ([], [])
    | some (.file _) => .ok (if hasExtension s root then [root] else [], [])
    | some .directory => .ok (below tree s root place)

end Discovery

end Rechristen
