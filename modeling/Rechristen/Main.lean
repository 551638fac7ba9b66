import Rechristen.CommandLine
import Rechristen.SyntaxTree.Outline

/-!
# The program

The program reads the paths of the files it may look at from its standard input, one a line.  The
syntax tree of a file is taken from the outline beside it, whose path has `.tree` added.  What the
program does is decided by `CommandLine.call`; here files are read, lines printed and changed files
written.
-/

namespace Rechristen

/-- The directory in which the program was started. -/
def homeDirectory : IO Path := do
  return Path.ofString (toString (← IO.currentDir))

/-- The lines of the standard input. -/
partial def inputLines (input : IO.FS.Stream) (lines : List String) : IO (List String) := do
  let line ← input.getLine
  if line.isEmpty then return lines.reverse
  inputLines input (Text.trimBlanks line :: lines)

/-- The content of a file, if it can be read. -/
def contentAt? (path : String) : IO (Option Bytes) := do
  try return some (← IO.FS.readBinFile path).toList
  catch _ => return none

/-- The files at some paths. -/
def readFiles (paths : List String) : IO (List (Path × Bytes)) :=
  paths.filterMapM fun path => do
    return (← contentAt? path).map (Path.ofString path, ·)

/-- The tree that holds some files. -/
def treeOf (home : Path) (files : List (Path × Bytes)) : FileTree :=
  let empty : FileTree := ((⟨home.names, []⟩ : FileTree).makeDirectories home).tree
  files.foldl (fun t f => (t.makeDirectories f.1.parent).tree.write f.1 f.2) empty

/-- The syntax tree of a file, from the outline beside it. -/
def outlineOf? (path : Path) : IO (Option SyntaxTree) := do
  let text? := (← contentAt? (path.toString ++ ".tree")).map Text.decodeUtf8
  return ((text?.bind OutlineRow.ofText?).bind SyntaxTree.ofOutline?).map (⟨·, none⟩)

/-- The parser that knows the outlines of some files. -/
def outlines (files : List (Path × Bytes)) : IO Parser := do
  let known ← files.filterMapM fun f => do return (← outlineOf? f.1).map (f.2, ·)
  return fun content => known.lookup content

/-- The variables that give settings. -/
def readEnvironment : IO Environment :=
  Environment.names.filterMapM fun name => do
    return (← IO.getEnv name).map (name, ·)

/-- Write the files that are new or changed, and remove those that are gone. -/
def save (before after : FileTree) : IO Unit := do
  for (place, entry) in after.entries do
    if before.at? place ≠ some entry then
      match entry with
      | .directory => IO.FS.createDirAll (FileTree.written place)
      | .file content => IO.FS.writeBinFile (FileTree.written place) ⟨content.toArray⟩
  for (place, entry) in before.entries do
    if !entry.isDirectory && (after.at? place).isNone then IO.FS.removeFile (FileTree.written place)

/-- Say what ended the program other than by a message. -/
def complain (escape : CommandLine.Escape) : IO Unit :=
  match escape with
  | .fault fault => IO.eprintln fault.text
  | .settings failure => do
    IO.eprintln failure.fault.text
    for c in failure.complaints?.getD [] do
      IO.eprintln (c.location ++ ": " ++ c.mismatch.name)

end Rechristen

open Rechristen in
/-- Carry out the call and report what became of it. -/
def main (args : List String) : IO UInt32 := do
  let files ← readFiles (← inputLines (← IO.getStdin) [])
  let tree := treeOf (← homeDirectory) files
  let outcome := CommandLine.call (← readEnvironment) tree (← outlines files) args
  for line in outcome.lines do
    IO.println line
  for line in outcome.log do
    IO.eprintln line
  save tree outcome.tree
  outcome.escape.forM complain
  return outcome.exitCode.toUInt32
