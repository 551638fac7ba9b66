import Rechristen.Advisory
import Rechristen.Attempt
import Rechristen.DeclarationTable
import Rechristen.MovePlan
import Rechristen.Registry

/-!
# Sessions

A session is the bookkeeping of one run: the declarations with their present names, the registry of
renames, the table of declarations, the plan of file moves, and what is to be told about it all.
Files are touched only when the session is finalized, and that happens once.
-/

namespace Rechristen

/-- A declaration that was renamed. -/
structure RenameRecord where
  old : Name
  new : Name
  oldPath : Path
  /-- Where its file is planned to go. -/
  newPath : Option Path
  policy : String
  deriving DecidableEq

/-- The bookkeeping of a run. -/
structure Session where
  dryRun : Bool := false
  collision : CollisionPolicy := .firstWins
  /-- All declarations, as they are called now. -/
  declarations : List Declaration := []
  registry : Registry := {}
  table : DeclarationTable := {}
  plan : MovePlan := {}
  records : List RenameRecord := []
  diagnostics : List Diagnostic := []
  /-- What became of the planned moves. -/
  commit : Option MovePlan.Report := none
  finalized : Bool := false
  log : List Event := []

namespace Session

/-- The session with events reported. -/
def note (s : Session) (events : List Event) : Session :=
  { s with log := s.log ++ events }

/-- The session with a diagnostic. -/
def report (s : Session) (d : Diagnostic) : Session :=
  { s with diagnostics := s.diagnostics ++ [d] }

/-- The session with more declarations; they are not in the table yet. -/
def receive (s : Session) (declarations : List Declaration) : Session :=
  { s with declarations := s.declarations ++ declarations }

/-- The file of a declaration, as text. -/
def fileOf (s : Session) (id : DeclarationId) : String :=
  (s.declarations[id]?.map (·.path.toString)).getD ""

/-- Enter a declaration into the table. -/
def index (s : Session) (id : DeclarationId) : Bool × Session :=
  match s.declarations[id]? with
  | none => (false, s)
  | some d =>
    match s.table.add id d with
    | (true, table) => (true, { s with table })
    | (false, _) =>
      let first := (s.table.get? d.name).bind (s.declarations[·]?)
      (false, s.note (first.map (DeclarationTable.duplicateEvent d)).toList)

/-- Register a rename. -/
def register (s : Session) (old new : Name) : Bool × Session :=
  let r := s.registry.register old new
  (r.accepted, { s with registry := r.registry }.note r.events)

/-- Plan the move of a file. -/
def planMove (s : Session) (m : Move) (supersede : Bool) : Attempt Session Bool :=
  let m := m.normal
  let verdict := s.plan.judge s.collision m supersede
  let after := { s with plan := verdict.plan s.plan }.note (verdict.events m)
  match verdict with
  | .conflict planned => .failure (.planConflict m.source planned m.target) after
  | verdict => .success verdict.accepted after

/-- What is reported of a finalized session. -/
def finalizedEvent (s : Session) (dryRun : Bool) (r : MovePlan.Report) : Event :=
  ⟨.info, "session_finalized",
    [("dry_run", .bool dryRun), ("renames", .int s.records.length),
      ("applied", .int r.applied.length), ("skipped", .int r.skipped.length),
      ("discarded", .int r.discarded.length)]⟩

/-- Give the planned moves up. -/
def discardMoves (s : Session) : MovePlan.Report × Session :=
  let (r, plan) := s.plan.abort
  (r, { s with plan, commit := some r }.note (s.plan.abortEvents ++ [s.finalizedEvent true r]))

/-- Carry the planned moves out. -/
def carryOutMoves (s : Session) (tree : FileTree) : Attempt (Session × FileTree) MovePlan.Report :=
  let (c, plan) := s.plan.commit tree
  let after := { s with plan }.note c.events
  match c.trouble with
  | some trouble => .failure (.move trouble) (after, c.tree)
  | none =>
    .success c.report
      ({ after with commit := some c.report }.note [s.finalizedEvent false c.report], c.tree)

/-- Finalize the session: carry the planned moves out, or give them up in a dry run.  A session that
was finalized before stays as it is, and its first report is given again. -/
def finalize (s : Session) (tree : FileTree) (dryRun : Option Bool) :
    Attempt (Session × FileTree) MovePlan.Report :=
  if s.finalized then
    .success (s.commit.getD {}) (s.note [⟨.debug, "session_already_finalized", []⟩], tree)
  else
    let s := { s with finalized := true }
    if dryRun.getD s.dryRun then
      let (r, s) := s.discardMoves
      .success r (s, tree)
    else s.carryOutMoves tree

/-- Leave the session: a session that is open is finalized, and after a failure no file is moved. -/
def leave (s : Session) (tree : FileTree) (failed : Bool) : Attempt (Session × FileTree) Unit :=
  if s.finalized then .success () (s, tree)
  else (s.finalize tree (if failed then some true else none)).map fun _ => ()

/-- The session in one line. -/
def render (s : Session) : String :=
  let word (b : Bool) := (Datum.bool b).render
  "RenameSession(dry_run=" ++ word s.dryRun ++ ", renames=" ++ toString s.records.length ++
    ", planned=" ++ toString s.plan.size ++ ", finalized=" ++ word s.finalized ++ ")"

end Session

end Rechristen
