import Rechristen.FileTree
import Rechristen.Log.Event

/-!
# The plan of file moves

Files follow the declarations they are named after.  Moves are planned while declarations are
renamed and carried out all at once at the end, or not at all.  A file has at most one planned
destination; what happens when another one is asked for is a setting.
-/

namespace Rechristen

/-- What happens when a file is planned twice with different destinations. -/
inductive CollisionPolicy where
  | firstWins
  | lastWins
  | error
  deriving DecidableEq, Repr

namespace CollisionPolicy

/-- The word for a policy. -/
def word : CollisionPolicy → String
  | firstWins => "first-wins"
  | lastWins => "last-wins"
  | error => "error"

/-- The policy a word stands for. -/
def ofWord? (word : String) : Option CollisionPolicy :=
  [firstWins, lastWins, error].find? (·.word == word)

end CollisionPolicy

/-- The file at `source` is to go to `target`. -/
structure Move where
  source : Path
  target : Path
  deriving DecidableEq

/-- A move as it is planned: between paths without parts that have no meaning. -/
def Move.normal (m : Move) : Move :=
  ⟨m.source.normal, m.target.normal⟩

/-- The planned moves, in the order in which their files were first planned. -/
structure MovePlan where
  moves : List Move := []
  deriving DecidableEq

namespace MovePlan

/-- The planned destination of a file. -/
def target? (p : MovePlan) (source : Path) : Option Path :=
  (p.moves.find? fun m => m.source = source).map Move.target

/-- Whether a file is planned to move. -/
def contains (p : MovePlan) (source : Path) : Bool :=
  (p.target? source).isSome

/-- The number of planned moves. -/
def size (p : MovePlan) : Nat :=
  p.moves.length

/-- The plan with a move; a move of the same file gives way to it. -/
def put (p : MovePlan) (m : Move) : MovePlan :=
  if p.contains m.source then
    ⟨p.moves.map fun n => if n.source = m.source then m else n⟩
  else ⟨p.moves ++ [m]⟩

/-- The plan without a file. -/
def erase (p : MovePlan) (source : Path) : MovePlan :=
  ⟨p.moves.filter fun m => m.source ≠ source⟩

/-- What came of planning a move. -/
inductive Verdict where
  /-- The file stays where it is; an earlier plan of its own is withdrawn. -/
  | stays (plan : MovePlan)
  /-- The move is planned. -/
  | planned (plan : MovePlan)
  /-- The move is planned instead of another one. -/
  | replaced (previous : Path) (plan : MovePlan)
  /-- The earlier destination stands. -/
  | refused (planned : Path)
  /-- Two destinations are a fault. -/
  | conflict (planned : Path)

/-- Plan a move.  `supersede` says that an earlier plan for the file came from the same
declaration and gives way. -/
def judge (p : MovePlan) (policy : CollisionPolicy) (m : Move) (supersede : Bool) : Verdict :=
  if m.source = m.target then .stays (if supersede then p.erase m.source else p)
  else
    match (p.target? m.source).filter fun target => target ≠ m.target && !supersede with
    | none => .planned (p.put m)
    | some current =>
      match policy with
      | .error => .conflict current
      | .lastWins => .replaced current (p.put m)
      | .firstWins => .refused current

/-- What is reported of a verdict. -/
def Verdict.events (m : Move) : Verdict → List Event
  | stays _ => []
  | planned _ =>
    [⟨.debug, "file_move_planned",
      [("source", .text m.source.toString), ("target", .text m.target.toString)]⟩]
  | replaced previous _ =>
    [⟨.warning, "file_move_replaced",
      [("source", .text m.source.toString), ("previous", .text previous.toString),
        ("target", .text m.target.toString)]⟩]
  | refused current =>
    [⟨.warning, "file_move_skipped",
      [("reason", .text "already_planned"), ("source", .text m.source.toString),
        ("planned", .text current.toString), ("requested", .text m.target.toString)]⟩]
  | conflict _ => []

/-- The plan after a verdict. -/
def Verdict.plan (before : MovePlan) : Verdict → MovePlan
  | stays plan => plan
  | planned plan => plan
  | replaced _ plan => plan
  | refused _ => before
  | conflict _ => before

/-- Whether the plan now leads the file to the destination asked for. -/
def Verdict.accepted : Verdict → Bool
  | planned _ => true
  | replaced _ _ => true
  | _ => false

/-! ## Carrying a plan out -/

/-- What became of the planned moves. -/
structure Report where
  applied : List Move := []
  skipped : List Move := []
  discarded : List Move := []
  deriving DecidableEq

/-- The number of moves in a report. -/
def Report.total (r : Report) : Nat :=
  r.applied.length + r.skipped.length + r.discarded.length

/-- Why a move could not be carried out. -/
inductive Trouble where
  /-- The directory of the target cannot be made. -/
  | directory (move : Move)
  /-- The file cannot be moved. -/
  | file (move : Move)
  /-- The target is too long to be looked at. -/
  | tooLong (move : Move)
  /-- A path holds a null character. -/
  | unnameable (move : Move)
  deriving DecidableEq

/-- What one move comes to. -/
inductive Outcome where
  | applied (tree : FileTree)
  /-- Something stands at the target already. -/
  | skipped (tree : FileTree)
  | failed (trouble : Trouble) (tree : FileTree)

/-- Carry one move out: make the directory of the target, and move the file unless something stands
there. -/
def carryOut (tree : FileTree) (m : Move) : Outcome :=
  let making := tree.makeDirectories m.target.parent
  match making.obstacle, making.tree.look m.target with
  | some .unnameable, _ => .failed (.unnameable m) making.tree
  | some _, _ => .failed (.directory m) making.tree
  | none, .error _ => .failed (.tooLong m) making.tree
  | none, .ok (some _) => .skipped making.tree
  | none, .ok none =>
    if m.source.hasNull || m.target.hasNull then .failed (.unnameable m) making.tree
    else
      match making.tree.move? m.source m.target with
      | some tree => .applied tree
      | none => .failed (.file m) making.tree

/-- The end of a commit: the moves applied and skipped, the trouble that stopped it, the tree and
what is reported. -/
structure Commit where
  report : Report
  trouble : Option Trouble
  tree : FileTree
  events : List Event

/-- The report of a move that was applied. -/
def movedEvent (m : Move) : Event :=
  ⟨.info, "file_moved",
    [("source", .text m.source.toString), ("target", .text m.target.toString)]⟩

/-- The report of a move whose target is taken. -/
def takenEvent (m : Move) : Event :=
  ⟨.info, "file_move_skipped",
    [("reason", .text "target_exists"), ("source", .text m.source.toString),
      ("target", .text m.target.toString)]⟩

/-- Carry moves out one after the other, until one fails. -/
def commitMoves (tree : FileTree) : List Move → Commit
  | [] => ⟨{}, none, tree, []⟩
  | m :: rest =>
    match carryOut tree m with
    | .failed trouble tree => ⟨{}, some trouble, tree, []⟩
    | .applied tree =>
      let later := commitMoves tree rest
      { later with
        report := { later.report with applied := m :: later.report.applied }
        events := movedEvent m :: later.events }
    | .skipped tree =>
      let later := commitMoves tree rest
      { later with
        report := { later.report with skipped := m :: later.report.skipped }
        events := takenEvent m :: later.events }

/-- Carry the plan out.  The plan is empty afterwards, whether or not a move failed. -/
def commit (p : MovePlan) (tree : FileTree) : Commit × MovePlan :=
  (commitMoves tree p.moves, {})

/-- Give the plan up. -/
def abort (p : MovePlan) : Report × MovePlan :=
  ({ discarded := p.moves }, {})

/-- What is reported when a plan is given up. -/
def abortEvents (p : MovePlan) : List Event :=
  if p.moves.isEmpty then []
  else [⟨.info, "file_moves_discarded", [("count", .int p.moves.length)]⟩]

end MovePlan

end Rechristen
