import Rechristen.Diff
import Rechristen.Discovery
import Rechristen.Language
import Rechristen.Pass.ArgumentLayout
import Rechristen.Pass.NamedArguments
import Rechristen.Pass.References
import Rechristen.Session.Apply
import Rechristen.Sites

/-!
# Runs

A run goes over a tree of files: it finds the source files, reads off their sites, makes one pass
for each policy, fixes the references, treats the arguments, gives advice, writes the files and
finalizes the session.  In a dry run everything happens but the last two: no file is written and no
file is moved.

A failure ends the run.  The session is then left without moving files, unless it was the moving
that failed.
-/

namespace Rechristen

/-- What a run did, or in a dry run would do. -/
structure RunReport where
  root : Path
  dryRun : Bool
  filesScanned : Nat := 0
  renames : List RenameRecord := []
  moves : MovePlan.Report := {}
  modifiedFiles : List Path := []
  diagnostics : List Diagnostic := []
  diffs : List (Path × String) := []
  referencesFixed : Nat := 0
  namedCalls : Nat := 0
  multilineCalls : Nat := 0

namespace RunReport

/-- Something was changed. -/
def changed (r : RunReport) : Bool :=
  !r.renames.isEmpty || !r.modifiedFiles.isEmpty || !r.moves.applied.isEmpty ||
    !r.moves.discarded.isEmpty

/-- The diagnostics that are more than information. -/
def warnings (r : RunReport) : List Diagnostic :=
  r.diagnostics.filter fun d => d.severity ≠ .info

end RunReport

/-- A run under way: the session and the files read. -/
structure Run where
  session : Session
  sources : List Source := []

namespace Run

/-- The run with events reported. -/
def note (r : Run) (events : List Event) : Run :=
  { r with session := r.session.note events }

/-- Report the end of a stage, good or bad. -/
def stage {α : Type} (name : String) (fields : Fields) (a : Attempt Run α) : Attempt Run α :=
  a.into (·.note [.stageEnded name fields (a.failure?.map Failure.fault)])

/-! ## Reading files -/

/-- The content of the file at a path. -/
def contentAt (tree : FileTree) (path : Path) : Except Failure Bytes :=
  match tree.locate path with
  | .error .missing => .error (.noFile path)
  | .error .blocked => .error (.notDirectory path)
  | .error .tooLong => .error (.tooLong path)
  | .error .unnameable => .error (.unnameable path)
  | .ok place =>
    match tree.at? place with
    | none => .error (.noFile path)
    | some .directory => .error (.isDirectory path)
    | some (.file content) => .ok content

/-- A file as a source, if its language can be told. -/
def readSource (tree : FileTree) (path : Path) (root : Option Path) (language : Option String) :
    Except Failure Source :=
  match contentAt tree path with
  | .error cause => .error cause
  | .ok content =>
    match language.or (Languages.detect? path) with
    | none => .error (.unknownLanguage path)
    | some language => .ok { path, content, language, root }

/-- The syntax tree of a source. -/
def parse (parser : Parser) (source : Source) : Except Failure SyntaxTree :=
  if !Languages.known.supports source.language then
    .error (.unsupportedLanguage source.language source.path)
  else
    match parser source.content with
    | none => .error (.unparsed source.path)
    | some t => .ok t

/-- Read a file and its syntax tree. -/
def readTree (tree : FileTree) (parser : Parser) (root path : Path) :
    Except Failure (Source × SyntaxTree) :=
  match readSource tree path (some root) none with
  | .error cause => .error cause
  | .ok source =>
    match parse parser source with
    | .error cause => .error cause
    | .ok t => .ok (source, t)

/-- The run after a file that cannot be read. -/
def reportUnread (r : Run) (path : Path) (cause : Failure) : Run :=
  let fault := cause.fault
  { r with
    session :=
      (r.session.note [.failure "file_load_failed" fault [("file", .text path.toString)]]).report
        ⟨"parser", "Cannot parse file: " ++ fault.text, some path, 0, .error⟩ }

/-- The run after a file with syntax errors. -/
def reportBroken (r : Run) (source : Source) (t : SyntaxTree) : Run :=
  let line :=
    match t.root.errors with
    | [] => 0
    | n :: _ => source.lineAt n.start
  { r with
    session := (r.session.report
        ⟨"parser", "File has syntax errors, skipped", some source.path, line, .warning⟩).note
      [⟨.warning, "file_skipped",
        [("file", .text source.path.toString), ("reason", .text "syntax_error"),
          ("line", .int line)]⟩] }

/-- The run with a file and its sites. -/
def receive (r : Run) (source : Source) (sites : Sites) : Run where
  session := (r.session.receive sites.declarations).note [sites.event source.path]
  sources := r.sources ++ [source.withSites sites r.session.declarations.length]

/-- Read one file.  A file that cannot be read is passed over, one whose sites cannot be read is a
failure. -/
def loadFile (tree : FileTree) (parser : Parser) (settings : Settings) (root : Path) (r : Run)
    (path : Path) : Attempt Run Unit :=
  match readTree tree parser root path with
  | .error cause => .success () (r.reportUnread path cause)
  | .ok (source, t) =>
    if t.hasError && settings.skipFilesWithErrors then .success () (r.reportBroken source t)
    else
      match Sites.extract source t.root with
      | .error disorder => .failure (.disorder disorder) r
      | .ok sites => .success () (r.receive source sites)

/-- Read files, one after the other. -/
def loadFiles (tree : FileTree) (parser : Parser) (settings : Settings) (root : Path) (r : Run) :
    List Path → Attempt Run Unit
  | [] => .success () r
  | path :: rest =>
    (loadFile tree parser settings root r path).andThen fun _ r =>
      loadFiles tree parser settings root r rest

/-- Enter the declarations of the files into the table. -/
def buildTable (r : Run) : Run :=
  let session :=
    (r.sources.flatMap Source.declarations).foldl (fun s id => (s.index id).2) r.session
  { r with
    session := session.note
      [⟨.debug, "declaration_table_built", [("declarations", .int session.table.size)]⟩] }

/-! ## The passes of the policies -/

/-- Follow a policy at some declarations of a file; the number of renamed ones. -/
def followIn (p : Policy) (session : Session) (source : Source) :
    List DeclarationId → Attempt (Session × Source) Nat
  | [] => .success 0 (session, source)
  | id :: rest =>
    let newName :=
      session.declarations[id]?.bind fun d => p.tryRename d (d.place (some source.relativePath))
    (session.apply source id newName p).andThen fun record (session, source) =>
      (followIn p session source rest).map fun n => if record.isSome then 1 + n else n

/-- Follow a policy in files, one after the other. -/
def followOver (p : Policy) (session : Session) : List Source → Attempt (Session × List Source) Nat
  | [] => .success 0 (session, [])
  | source :: rest =>
    let head := followIn p session source source.declarations
    match head.result with
    | .error cause => .failure cause (head.state.1, head.state.2 :: rest)
    | .ok count =>
      let tail := followOver p head.state.1 rest
      ⟨tail.result.map (count + ·), (tail.state.1, head.state.2 :: tail.state.2)⟩

/-- The pass of a policy. -/
def follow (r : Run) (p : Policy) : Attempt Run Unit :=
  let pass := (followOver p r.session r.sources).into fun (session, sources) => ⟨session, sources⟩
  (stage "policy_pass" [("policy", .text p.name)] pass).andThen fun count r =>
    .success ()
      (if count = 0 then r
      else
        r.note [⟨.info, "policy_applied", [("policy", .text p.name), ("renamed", .int count)]⟩])

/-- The passes of policies, one after the other. -/
def followAll (r : Run) : List Policy → Attempt Run Unit
  | [] => .success () r
  | p :: rest => (r.follow p).andThen fun _ r => r.followAll rest

/-! ## The passes over the files -/

/-- Make a pass over all files; diagnostics count only if it succeeds. -/
def make (r : Run) (a : Attempt (List Source × Notes) Nat) : Attempt Run (Nat × List Diagnostic) :=
  ⟨a.result.map fun n => (n, a.state.2.diagnostics),
    { r with sources := a.state.1 }.note a.state.2.events⟩

/-- Fix the references of all files. -/
def fixReferences (r : Run) : Attempt Run Nat :=
  (stage "fix_references" [] (r.make (References.fixAll r.session.registry r.sources))).andThen
    fun (n, diagnostics) r =>
      .success n
        { r with
          session := { r.session with diagnostics := r.session.diagnostics ++ diagnostics } }

/-- Where parameter names are looked up in a run. -/
def lookup (s : Session) (registry : Option Registry) (least : Nat) : NamedArguments.Lookup :=
  ⟨s.table, s.declarations, registry, least⟩

/-- Name the arguments in all files, if that is asked for. -/
def nameArguments (r : Run) (s : ArgumentSettings) : Attempt Run Nat :=
  if s.enforceNamed then
    let l := lookup r.session (some r.session.registry) s.minNamed.toNat
    (stage "named_arguments" [] (r.make ((NamedArguments.pass l).overAll r.sources))).map Prod.fst
  else .success 0 r

/-- Lay the arguments out in all files, if that is asked for. -/
def layOutArguments (r : Run) (s : ArgumentSettings) : Attempt Run Nat :=
  if s.formatMultiline then
    let style : ArgumentLayout.Style := ⟨s.minMultiline.toNat, s.indent⟩
    (stage "multiline_arguments" []
      (r.make ((ArgumentLayout.pass style).overAll r.sources))).map Prod.fst
  else .success 0 r

/-- What advisories say about the declarations of the files. -/
def advice (r : Run) (advisories : List Advisory) : List Diagnostic :=
  advisories.flatMap fun a => r.sources.flatMap fun source =>
    source.declarations.filterMap fun id =>
      r.session.declarations[id]?.bind fun d => a.check d (d.place (some source.relativePath))

/-- Give advice. -/
def advise (r : Run) (advisories : List Advisory) : Run :=
  { r with
    session := { r.session with diagnostics := r.session.diagnostics ++ r.advice advisories } }

/-! ## The results -/

/-- The diffs of files, one after the other. -/
def diffsOf : List Source → Except Failure (List (Path × String))
  | [] => .ok []
  | source :: rest =>
    match source.render, diffsOf rest with
    | .ok new, .ok diffs =>
      .ok ((source.path, Diff.unified source.relativePath.toString source.text new) :: diffs)
    | .error cause, _ => .error cause
    | _, .error cause => .error cause

/-- The files with edits. -/
def modified (r : Run) : List Source :=
  r.sources.filter Source.modified

/-- Write files, one after the other. -/
def writeAll (tree : FileTree) : List Source → Except Failure FileTree
  | [] => .ok tree
  | source :: rest =>
    match source.render with
    | .error cause => .error cause
    | .ok new =>
      match source.encoding.encode? new with
      | none => .error .unwritable
      | some bytes => writeAll (tree.write source.path bytes) rest

/-- What is reported of written files. -/
def writtenEvents (sources : List Source) : List Event :=
  sources.map fun s =>
    ⟨.debug, "file_written", [("file", .text s.path.toString), ("edits", .int s.editCount)]⟩

/-- Write the files with edits, unless it is a dry run. -/
def write (r : Run) (tree : FileTree) (dryRun : Bool) : Attempt (Run × FileTree) Unit :=
  if dryRun then .success () (r, tree)
  else
    match writeAll tree r.modified with
    | .error cause => .failure cause (r, tree)
    | .ok tree => .success () (r.note (writtenEvents r.modified), tree)

/-- Everything between reading and writing: the counts of the passes and the diffs. -/
def rework (r : Run) (settings : Settings) (policies : List Policy) (root : Path) :
    Attempt Run RunReport :=
  (r.followAll policies).andThen fun _ r =>
  r.fixReferences.andThen fun fixed r =>
  (r.nameArguments settings.arguments).andThen fun named r =>
  (r.layOutArguments settings.arguments).andThen fun laidOut r =>
    let r := r.advise settings.followedAdvisories
    match diffsOf r.modified with
    | .error cause => .failure cause r
    | .ok diffs =>
      .success
        { root := root
          dryRun := settings.dryRun
          filesScanned := r.sources.length
          modifiedFiles := r.modified.map Source.path
          diffs := diffs
          referencesFixed := fixed
          namedCalls := named
          multilineCalls := laidOut } r

/-- Find the source files at a path. -/
def discover (tree : FileTree) (settings : Settings) (root : Path) : Attempt Run (List Path) :=
  let session : Session := { dryRun := settings.dryRun, collision := settings.collision }
  stage "discover" []
    (match Discovery.discover tree settings.discovery root with
    | .error cause => .failure cause ⟨session, []⟩
    | .ok (paths, events) => .success paths ⟨session.note events, []⟩)

/-- Find the source files at a path and read them. -/
def load (tree : FileTree) (parser : Parser) (settings : Settings) (root : Path) :
    Attempt Run Unit :=
  (discover tree settings root).andThen fun paths r =>
    let base := if tree.hasDirectory root then root else root.parent
    (loadFiles tree parser settings base r paths).andThen fun _ r => .success () r.buildTable

/-- Work on the files, write them and finalize the session. -/
def complete (r : Run) (tree : FileTree) (settings : Settings) (policies : List Policy)
    (root : Path) : Attempt (Run × FileTree) RunReport :=
  ((r.rework settings policies root).into (·, tree)).andThen fun report (r, tree) =>
  (r.write tree settings.dryRun).andThen fun _ (r, tree) =>
    let final := r.session.finalize tree (some settings.dryRun)
    let r := { r with session := final.state.1 }
    match final.result with
    | .error cause => .failure cause (r, final.state.2)
    | .ok moves =>
      .success
        { report with
          moves := moves
          renames := r.session.records
          diagnostics := r.session.diagnostics } (r, final.state.2)

/-- What a run comes to: its report or failure, the tree afterwards and what was reported. -/
structure Ending where
  result : Except Failure RunReport
  tree : FileTree
  log : List Event

/-- What is reported of a completed run. -/
def completeEvent (r : RunReport) : Event :=
  ⟨.info, "run_complete",
    [("files", .int r.filesScanned), ("renames", .int r.renames.length),
      ("modified", .int r.modifiedFiles.length), ("moved", .int r.moves.applied.length),
      ("dry_run", .bool r.dryRun)]⟩

/-- Make a run over the files at a path, following policies. -/
def perform (tree : FileTree) (parser : Parser) (settings : Settings) (policies : List Policy)
    (root : Path) : Ending :=
  if root.hasNull then ⟨.error (.unnameable root), tree, []⟩
  else
    let root := tree.resolve root
    let done := ((load tree parser settings root).into (·, tree)).andThen fun _ (r, tree) =>
      r.complete tree settings policies root
    let inside := fun (s : Session) => s.log.map (Event.within root.toString settings.dryRun)
    match done.result with
    | .ok report =>
      ⟨.ok report, done.state.2, inside done.state.1.session ++ [completeEvent report]⟩
    | .error cause =>
      let left := done.state.1.session.leave done.state.2 true
      ⟨.error cause, left.state.2, inside left.state.1⟩

end Run

end Rechristen
