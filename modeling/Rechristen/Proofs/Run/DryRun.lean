import Rechristen.Policy.Catalog
import Rechristen.Proofs.MovePlan.Commit
import Rechristen.Proofs.Session.Finality
import Rechristen.Proofs.Session.Mode
import Rechristen.Run

/-!
# Dry runs

A dry run and a run that is carried out are one and the same until the files are to be written.  Two
runs with twin sessions and the same files are twins too, and every part of a run takes twins to
twins, with one result.  The settings of the two runs differ only where the first session is made
and in the flag that the report repeats.

What follows is different.  The dry run writes nothing and gives the planned moves up, so that its
tree stays as it was.  The other run commits the plan, and if that succeeds every move of the plan
was applied or skipped.
-/

namespace Rechristen

namespace MovePlan

/-- The planned moves fall into those applied and those skipped, both in the order of the plan. -/
inductive Settled : List Move → List Move → List Move → Prop where
  | nil : Settled [] [] []
  | applied {planned applied skipped : List Move} (m : Move) :
      Settled planned applied skipped → Settled (m :: planned) (m :: applied) skipped
  | skipped {planned applied skipped : List Move} (m : Move) :
      Settled planned applied skipped → Settled (m :: planned) applied (m :: skipped)

theorem settled_commitMoves {t : FileTree} {moves : List Move}
    (hok : (commitMoves t moves).trouble = none) :
    Settled moves (commitMoves t moves).report.applied (commitMoves t moves).report.skipped ∧
      (commitMoves t moves).report.discarded = [] := by
  induction moves generalizing t with
  | nil => exact ⟨Settled.nil, rfl⟩
  | cons m rest ih =>
      simp only [commitMoves] at hok ⊢
      split at hok
      case h_1 => cases hok
      case h_2 => exact ⟨(ih hok).1.applied m, (ih hok).2⟩
      case h_3 => exact ⟨(ih hok).1.skipped m, (ih hok).2⟩

end MovePlan

namespace Run

open Attempt (Paired)
open Session.Twin (AtFile)

/-- `u` is the run `r`, perhaps in another mode; the session is open. -/
def Twin (r u : Run) : Prop :=
  Session.Twin r.session u.session ∧ u.sources = r.sources

variable {r u : Run}

/-! ## Reading files -/

theorem Twin.note (htwin : Twin r u) (events : List Event) : Twin (r.note events) (u.note events) :=
  ⟨htwin.1.note events, htwin.2⟩

theorem Twin.stage {α : Type} {a b : Attempt Run α} (hpaired : Paired Twin a b) (name : String)
    (fields : Fields) : Paired Twin (stage name fields a) (stage name fields b) := by
  have hfailure : b.failure? = a.failure? := by
    unfold Attempt.failure?
    rw [hpaired.result]
  unfold Run.stage
  rw [hfailure]
  exact hpaired.into fun r u htwin => htwin.note _

theorem Twin.receive (htwin : Twin r u) (source : Source) (sites : Sites) :
    Twin (r.receive source sites) (u.receive source sites) := by
  obtain ⟨⟨hopen, dryRun, hsession⟩, hsources⟩ := htwin
  refine ⟨⟨hopen, dryRun, ?_⟩, ?_⟩
  · rw [Run.receive, hsession]
    rfl
  · rw [Run.receive, Run.receive, hsession, hsources]
    rfl

theorem Twin.loadFile (htwin : Twin r u) (tree : FileTree) (parser : Parser) (settings : Settings)
    (dryRun : Bool) (root path : Path) :
    (loadFile tree parser settings root r path).Paired Twin
      (loadFile tree parser { settings with dryRun } root u path) := by
  unfold Run.loadFile
  dsimp only
  split
  · exact Paired.success () ⟨(htwin.1.note _).report _, htwin.2⟩
  split
  · exact Paired.success () ⟨(htwin.1.report _).note _, htwin.2⟩
  split
  · exact Paired.failure _ htwin
  · exact Paired.success () (htwin.receive _ _)

theorem Twin.loadFiles (htwin : Twin r u) (tree : FileTree) (parser : Parser)
    (settings : Settings) (dryRun : Bool) (root : Path) (paths : List Path) :
    (loadFiles tree parser settings root r paths).Paired Twin
      (loadFiles tree parser { settings with dryRun } root u paths) := by
  induction paths generalizing r u with
  | nil => exact Paired.success () htwin
  | cons path rest ih =>
      unfold Run.loadFiles
      exact (htwin.loadFile tree parser settings dryRun root path).andThen
        fun _ r u htwin => ih htwin

theorem Twin.buildTable (htwin : Twin r u) : Twin r.buildTable u.buildTable := by
  have hindexed : ∀ (ids : List DeclarationId) (s t : Session), Session.Twin s t →
      Session.Twin (ids.foldl (fun s id => (s.index id).2) s)
        (ids.foldl (fun s id => (s.index id).2) t) := by
    intro ids
    induction ids with
    | nil => exact fun s t htwin => htwin
    | cons id rest ih => exact fun s t htwin => ih _ _ (htwin.index id)
  have hsession := hindexed (r.sources.flatMap Source.declarations) _ _ htwin.1
  unfold Run.buildTable
  rw [htwin.2]
  generalize List.foldl _ r.session _ = s at hsession ⊢
  generalize List.foldl _ u.session _ = t at hsession ⊢
  obtain ⟨hopen, dryRun, rfl⟩ := hsession
  exact ⟨⟨hopen, dryRun, rfl⟩, rfl⟩

/-- Whatever the mode, the same files are found and read. -/
theorem load_paired (tree : FileTree) (parser : Parser) (settings : Settings) (dryRun : Bool)
    (root : Path) :
    (load tree parser settings root).Paired Twin
      (load tree parser { settings with dryRun } root) := by
  have hfound : (discover tree settings root).Paired Twin
      (discover tree { settings with dryRun } root) := by
    unfold discover
    refine Twin.stage ?_ _ _
    have hnew : Session.Twin { dryRun := settings.dryRun, collision := settings.collision }
        { dryRun := dryRun, collision := settings.collision } := ⟨rfl, dryRun, rfl⟩
    dsimp only
    cases Discovery.discover tree settings.discovery root with
    | error cause => exact Paired.failure cause ⟨hnew, rfl⟩
    | ok found => exact Paired.success found.1 ⟨hnew.note found.2, rfl⟩
  unfold load
  refine hfound.andThen fun paths r u htwin => ?_
  refine (htwin.loadFiles tree parser settings dryRun _ paths).andThen fun _ r u htwin => ?_
  exact Paired.success () htwin.buildTable

/-! ## The passes of the policies -/

theorem followIn_paired {s t : Session} (htwin : Session.Twin s t) (p : Policy) (source : Source)
    (ids : List DeclarationId) :
    (followIn p s source ids).Paired AtFile (followIn p t source ids) := by
  induction ids generalizing s t source with
  | nil => exact Paired.success 0 ⟨htwin, rfl⟩
  | cons id rest ih =>
      unfold followIn
      rw [htwin.sameNames.declarations]
      refine (htwin.apply source id _ p).andThen ?_
      rintro record ⟨s, source⟩ ⟨t, source'⟩ ⟨htwin, hsource⟩
      obtain rfl : source' = source := hsource
      exact (ih htwin source').map _

theorem followOver_paired {s t : Session} (htwin : Session.Twin s t) (p : Policy)
    (sources : List Source) :
    (followOver p s sources).Paired (fun a b => Session.Twin a.1 b.1 ∧ b.2 = a.2)
      (followOver p t sources) := by
  induction sources generalizing s t with
  | nil => exact Paired.success 0 ⟨htwin, rfl⟩
  | cons source rest ih =>
      have hhead := followIn_paired htwin p source source.declarations
      obtain ⟨hresult, hsession, hsource⟩ := hhead
      unfold followOver
      dsimp only
      rw [hresult, hsource]
      cases (followIn p s source source.declarations).result with
      | error cause => exact Paired.failure cause ⟨hsession, rfl⟩
      | ok count =>
          obtain ⟨htail, hlast, hsources⟩ := ih hsession
          exact ⟨congrArg (Except.map (count + ·)) htail, hlast, congrArg (_ :: ·) hsources⟩

theorem Twin.follow (htwin : Twin r u) (p : Policy) : (r.follow p).Paired Twin (u.follow p) := by
  unfold Run.follow
  rw [htwin.2]
  refine (Twin.stage ((followOver_paired htwin.1 p r.sources).into ?_) _ _).andThen
    fun count r u htwin => Paired.success () ?_
  · exact fun _ _ hstates => hstates
  split
  · exact htwin
  · exact htwin.note _

theorem Twin.followAll (htwin : Twin r u) (policies : List Policy) :
    (r.followAll policies).Paired Twin (u.followAll policies) := by
  induction policies generalizing r u with
  | nil => exact Paired.success () htwin
  | cons p rest ih =>
      unfold Run.followAll
      exact (htwin.follow p).andThen fun _ r u htwin => ih htwin

/-! ## The passes over the files -/

theorem Twin.make (htwin : Twin r u) (a : Attempt (List Source × Notes) Nat) :
    (r.make a).Paired Twin (u.make a) :=
  ⟨rfl, htwin.1.note _, rfl⟩

theorem Twin.diagnose (htwin : Twin r u) (diagnostics : List Diagnostic) :
    Twin { r with session := { r.session with
        diagnostics := r.session.diagnostics ++ diagnostics } }
      { u with session := { u.session with
        diagnostics := u.session.diagnostics ++ diagnostics } } := by
  obtain ⟨⟨hopen, dryRun, hsession⟩, hsources⟩ := htwin
  rw [hsession]
  exact ⟨⟨hopen, dryRun, rfl⟩, hsources⟩

theorem Twin.fixReferences (htwin : Twin r u) : r.fixReferences.Paired Twin u.fixReferences := by
  unfold Run.fixReferences
  rw [htwin.1.sameNames.registry, htwin.2]
  refine (Twin.stage (htwin.make _) _ _).andThen fun fixed r u htwin => ?_
  exact Paired.success fixed.1 (htwin.diagnose fixed.2)

theorem Twin.nameArguments (htwin : Twin r u) (settings : ArgumentSettings) :
    (r.nameArguments settings).Paired Twin (u.nameArguments settings) := by
  have hlookup : lookup u.session (some u.session.registry) =
      lookup r.session (some r.session.registry) := by
    unfold lookup
    rw [htwin.1.sameNames.table, htwin.1.sameNames.declarations, htwin.1.sameNames.registry]
  unfold Run.nameArguments
  rw [hlookup, htwin.2]
  split
  · exact (Twin.stage (htwin.make _) _ _).map _
  · exact Paired.success 0 htwin

theorem Twin.layOutArguments (htwin : Twin r u) (settings : ArgumentSettings) :
    (r.layOutArguments settings).Paired Twin (u.layOutArguments settings) := by
  unfold Run.layOutArguments
  rw [htwin.2]
  split
  · exact (Twin.stage (htwin.make _) _ _).map _
  · exact Paired.success 0 htwin

theorem Twin.advise (htwin : Twin r u) (advisories : List Advisory) :
    Twin (r.advise advisories) (u.advise advisories) := by
  have hadvice : u.advice advisories = r.advice advisories := by
    obtain ⟨⟨-, dryRun, hsession⟩, hsources⟩ := htwin
    unfold Run.advice
    rw [hsession, hsources]
    rfl
  unfold Run.advise
  rw [hadvice]
  exact htwin.diagnose _

/-- Whatever the mode, the files are reworked in the same way, and the reports differ in it
alone. -/
theorem Twin.rework (htwin : Twin r u) (settings : Settings) (dryRun : Bool)
    (policies : List Policy) (root : Path) :
    ((r.rework settings policies root).map fun report => { report with dryRun }).Paired Twin
      (u.rework { settings with dryRun } policies root) := by
  unfold Run.rework
  simp only [Attempt.map_andThen]
  refine (htwin.followAll policies).andThen fun _ r u htwin => ?_
  refine htwin.fixReferences.andThen fun fixed r u htwin => ?_
  refine (htwin.nameArguments settings.arguments).andThen fun named r u htwin => ?_
  refine (htwin.layOutArguments settings.arguments).andThen fun laidOut r u htwin => ?_
  have hadvised : Twin (r.advise settings.followedAdvisories)
      (u.advise { settings with dryRun }.followedAdvisories) := htwin.advise _
  generalize r.advise settings.followedAdvisories = r at hadvised ⊢
  generalize u.advise { settings with dryRun }.followedAdvisories = u at hadvised ⊢
  -- From here on only the files are read, and they are the same.
  have hmodified : u.modified = r.modified := by
    unfold modified
    rw [hadvised.2]
  rw [hmodified, hadvised.2]
  cases diffsOf r.modified with
  | error cause => exact Paired.failure cause hadvised
  | ok diffs => exact Paired.success _ hadvised

/-! ## The end of a run -/

theorem complete_dry_tree (r : Run) (tree : FileTree) {settings : Settings}
    (hdry : settings.dryRun = true) (policies : List Policy) (root : Path) :
    (r.complete tree settings policies root).state.2 = tree := by
  unfold complete write
  rw [hdry]
  generalize r.rework settings policies root = reworked
  obtain ⟨result, r⟩ := reworked
  cases result with
  | error cause => rfl
  | ok report =>
      have hleft := Session.finalize_dry_tree r.session tree
      simp only [Attempt.into, Attempt.andThen, if_true, Attempt.success]
      split
      · exact hleft
      · exact hleft

/-- A dry run gives the planned moves up. -/
theorem complete_dry {r r' : Run} {settings : Settings} {policies : List Policy} {root : Path}
    {report : RunReport} (hdry : settings.dryRun = true)
    (hrework : r.rework settings policies root = ⟨.ok report, r'⟩)
    (hopen : r'.session.finalized = false) (tree : FileTree) :
    (r.complete tree settings policies root).result =
      .ok { report with
        moves := { discarded := r'.session.plan.moves }
        renames := r'.session.records
        diagnostics := r'.session.diagnostics } := by
  have hfinal : (r'.session.finalize tree (some true)).result =
        .ok { discarded := r'.session.plan.moves } ∧
      (r'.session.finalize tree (some true)).state.1.records = r'.session.records ∧
      (r'.session.finalize tree (some true)).state.1.diagnostics = r'.session.diagnostics := by
    unfold Session.finalize
    rw [hopen]
    exact ⟨rfl, rfl, rfl⟩
  unfold complete write
  rw [hdry, hrework]
  simp only [Attempt.into, Attempt.andThen, if_true, Attempt.success, hfinal.1]
  rw [hfinal.2.1, hfinal.2.2]

theorem write_ok {r r' : Run} {tree tree' : FileTree} {dryRun : Bool}
    (hwrite : r.write tree dryRun = ⟨.ok (), (r', tree')⟩) : ∃ events, r' = r.note events := by
  unfold write at hwrite
  split at hwrite
  · obtain ⟨-, hstate⟩ := Attempt.success_eq hwrite
    refine ⟨[], ?_⟩
    rw [← (Prod.mk.inj hstate).1, note, Session.note, List.append_nil]
  split at hwrite
  · exact absurd hwrite Attempt.failure_ne
  · obtain ⟨-, hstate⟩ := Attempt.success_eq hwrite
    exact ⟨_, (Prod.mk.inj hstate).1.symm⟩

theorem finalize_ok {s : Session} {tree : FileTree} {moves : MovePlan.Report}
    (hopen : s.finalized = false) (hok : (s.finalize tree (some false)).result = .ok moves) :
    MovePlan.Settled s.plan.moves moves.applied moves.skipped ∧ moves.discarded = [] ∧
      (s.finalize tree (some false)).state.1.records = s.records ∧
      (s.finalize tree (some false)).state.1.diagnostics = s.diagnostics := by
  have hcarried : s.finalize tree (some false) =
      { s with finalized := true }.carryOutMoves tree := by
    unfold Session.finalize
    rw [hopen]
    rfl
  rw [hcarried] at hok ⊢
  unfold Session.carryOutMoves at hok ⊢
  have hcommit : (s.plan.commit tree).1 = MovePlan.commitMoves tree s.plan.moves := rfl
  dsimp only at hok ⊢
  rw [hcommit] at hok ⊢
  cases htrouble : (MovePlan.commitMoves tree s.plan.moves).trouble with
  | some trouble =>
      rw [htrouble] at hok
      cases hok
  | none =>
      rw [htrouble] at hok
      obtain ⟨hsettled, hnone⟩ := MovePlan.settled_commitMoves htrouble
      obtain rfl := Except.ok.inj hok
      exact ⟨hsettled, hnone, rfl, rfl⟩

/-- A run that is carried out to its end settles every planned move. -/
theorem complete_ok {r : Run} {tree : FileTree} {settings : Settings} {policies : List Policy}
    {root : Path} {report : RunReport} {left : Run × FileTree} (hdry : settings.dryRun = false)
    (hopen : (r.rework settings policies root).state.session.finalized = false)
    (hcomplete : r.complete tree settings policies root = ⟨.ok report, left⟩) :
    ∃ draft r', r.rework settings policies root = ⟨.ok draft, r'⟩ ∧
      report = { draft with
        moves := report.moves
        renames := r'.session.records
        diagnostics := r'.session.diagnostics } ∧
      MovePlan.Settled r'.session.plan.moves report.moves.applied report.moves.skipped ∧
      report.moves.discarded = [] := by
  unfold complete at hcomplete
  obtain ⟨draft, ⟨r₁, tree₁⟩, hinto, hcomplete⟩ := Attempt.andThen_ok hcomplete
  obtain ⟨r', hrework, hstate⟩ := Attempt.into_ok hinto
  obtain ⟨rfl, rfl⟩ := Prod.mk.inj hstate
  rw [hrework] at hopen
  obtain ⟨_, ⟨r₂, tree₂⟩, hwrite, hcomplete⟩ := Attempt.andThen_ok hcomplete
  obtain ⟨events, hnoted⟩ := write_ok hwrite
  dsimp only at hcomplete
  rw [hdry] at hcomplete
  -- Writing the files only adds to the log, so the session is still open.
  have hopen₂ : r₂.session.finalized = false := by
    rw [hnoted]
    exact hopen
  split at hcomplete
  case h_1 => exact absurd hcomplete Attempt.failure_ne
  case h_2 moves hresult =>
    obtain ⟨hsettled, hnone, hrecords, hdiagnostics⟩ := finalize_ok hopen₂ hresult
    obtain ⟨rfl, -⟩ := Attempt.success_eq hcomplete
    refine ⟨draft, r', hrework, ?_, ?_, hnone⟩
    · rw [hrecords, hdiagnostics, hnoted]
      rfl
    · rw [hnoted] at hsettled
      exact hsettled

/-! ## Whole runs -/

theorem perform_ok {tree : FileTree} {parser : Parser} {settings : Settings}
    {policies : List Policy} {root : Path} {report : RunReport}
    (hok : (perform tree parser settings policies root).result = .ok report) :
    root.hasNull = false ∧ ∃ r left,
      load tree parser settings (tree.resolve root) = ⟨.ok (), r⟩ ∧
      r.complete tree settings policies (tree.resolve root) = ⟨.ok report, left⟩ := by
  unfold perform at hok
  split at hok
  case isTrue => cases hok
  case isFalse hnull =>
    dsimp only at hok
    split at hok
    case h_2 => cases hok
    case h_1 report' hresult =>
      obtain rfl : report' = report := Except.ok.inj hok
      obtain ⟨_, ⟨r, tree'⟩, hinto, hcomplete⟩ :=
        Attempt.andThen_ok (Attempt.eq_of_result hresult)
      obtain ⟨r, hload, hstate⟩ := Attempt.into_ok hinto
      obtain ⟨rfl, rfl⟩ := Prod.mk.inj hstate
      exact ⟨by simpa using hnull, r, _, hload, hcomplete⟩

theorem perform_of_complete {tree : FileTree} {parser : Parser} {settings : Settings}
    {policies : List Policy} {root : Path} {r : Run} {report : RunReport}
    (hnull : root.hasNull = false)
    (hload : load tree parser settings (tree.resolve root) = ⟨.ok (), r⟩)
    (hcomplete : (r.complete tree settings policies (tree.resolve root)).result = .ok report) :
    (perform tree parser settings policies root).result = .ok report := by
  unfold perform
  simp only [hnull, hload, Attempt.into, Attempt.andThen, Bool.false_eq_true, if_false, hcomplete]

/-- Whether or not the files can be read, the tree is the one at the start. -/
theorem andThen_tree {α : Type} {tree : FileTree} (loaded : Attempt Run Unit)
    {f : Unit → Run × FileTree → Attempt (Run × FileTree) α}
    (hf : ∀ r, (f () (r, tree)).state.2 = tree) :
    ((loaded.into (·, tree)).andThen f).state.2 = tree := by
  obtain ⟨result, r⟩ := loaded
  cases result with
  | error cause => rfl
  | ok _ => exact hf r

theorem perform_dry_tree (tree : FileTree) (parser : Parser) {settings : Settings}
    (hdry : settings.dryRun = true) (policies : List Policy) (root : Path) :
    (perform tree parser settings policies root).tree = tree := by
  unfold perform
  split
  · rfl
  dsimp only
  have hcomplete : ∀ r : Run,
      (r.complete tree settings policies (tree.resolve root)).state.2 = tree :=
    fun r => complete_dry_tree r tree hdry policies (tree.resolve root)
  split
  · exact andThen_tree _ hcomplete
  · rw [Session.leave_failed_tree]
    exact andThen_tree _ hcomplete

/-- **Dry runs are harmless and faithful.**  A dry run leaves the tree as it was, whether or not it
fails.  If the same run, carried out, completes, so does the dry run, and its report is the other's
in everything but the mode and the moves: the moves it gave up are the moves of the other run in
their order, each of which was applied or skipped. -/
theorem perform_dry (tree : FileTree) (parser : Parser) (settings : Settings)
    (policies : List Policy) (root : Path) :
    (perform tree parser { settings with dryRun := true } policies root).tree = tree ∧
    ∀ report,
      (perform tree parser { settings with dryRun := false } policies root).result = .ok report →
      ∃ planned,
        (perform tree parser { settings with dryRun := true } policies root).result =
          .ok { report with dryRun := true, moves := { discarded := planned } } ∧
        MovePlan.Settled planned report.moves.applied report.moves.skipped ∧
        report.moves.discarded = [] := by
  refine ⟨perform_dry_tree tree parser rfl policies root, fun report hok => ?_⟩
  obtain ⟨hnull, r, left, hload, hcomplete⟩ := perform_ok hok
  have hloads := load_paired tree parser { settings with dryRun := false } true (tree.resolve root)
  obtain ⟨u, hload', htwin⟩ := hloads.exists_ok hload
  have hreworks := htwin.rework { settings with dryRun := false } true policies (tree.resolve root)
  obtain ⟨draft, r', hrework, hreport, hsettled, hnone⟩ :=
    complete_ok rfl hreworks.left.1.1 hcomplete
  rw [hrework] at hreworks
  obtain ⟨u', hrework', htwin'⟩ := hreworks.exists_ok rfl
  obtain ⟨hopen, dryRun, hsession⟩ := htwin'.1
  have hopen' : u'.session.finalized = false := by
    rw [hsession]
    exact hopen
  refine ⟨r'.session.plan.moves, ?_, hsettled, hnone⟩
  rw [perform_of_complete hnull hload' (complete_dry rfl hrework' hopen' tree), hsession, hreport]
  rfl

/-! ### A run with a move that is applied and one that is skipped -/

/-- An abstract class and a trait; the name that the file of the trait is to get is taken. -/
def gallery : FileTree where
  home := []
  entries :=
    [(["p"], .directory),
      (["p", "A.php"], .file [97, 98, 115, 116, 114, 97, 99, 116, 32, 65]),
      (["p", "B.php"], .file [116, 114, 97, 105, 116, 32, 66]),
      (["p", "BTrait.php"], .file [])]

/-- The tree of a file with one declaration, whose name is a single letter. -/
def sketch (kind : String) (modifiers : List Node) (start : Int) : SyntaxTree where
  root := .mk "program" true false 0 (start + 1) none
    [.mk kind true false 0 (start + 1) none
      (modifiers ++ [.mk "name" true false start (start + 1) (some "name") []])]

/-- What the parser makes of the files, told by their first bytes. -/
def sketches : Parser := fun content =>
  match content.head? with
  | some 97 =>
    some (sketch "class_declaration" [.mk "abstract_modifier" true false 0 8 none []] 9)
  | some 116 => some (sketch "trait_declaration" [] 6)
  | _ => some ⟨.mk "program" true false 0 0 none [], none⟩

theorem gallery_files :
    Discovery.filesIn gallery ["p"] =
      [("A.php", [97, 98, 115, 116, 114, 97, 99, 116, 32, 65]),
        ("B.php", [116, 114, 97, 105, 116, 32, 66]), ("BTrait.php", [])] := by
  unfold Discovery.filesIn Discovery.sortByName
  rw [List.mergeSort_of_pairwise (by decide +kernel)]
  decide +kernel

theorem gallery_directories : Discovery.directoriesIn gallery ["p"] = [] := by
  unfold Discovery.directoriesIn Discovery.sortByName
  rw [List.mergeSort_of_pairwise (by decide +kernel)]
  decide +kernel

theorem gallery_discovered :
    Discovery.discover gallery {} ⟨"/", ["p"]⟩ =
      .ok ([⟨"/", ["p", "A.php"]⟩, ⟨"/", ["p", "B.php"]⟩, ⟨"/", ["p", "BTrait.php"]⟩], []) := by
  have hlocate : gallery.locate ⟨"/", ["p"]⟩ = .ok ["p"] := by decide +kernel
  have hplace : gallery.at? ["p"] = some .directory := by decide +kernel
  unfold Discovery.discover
  rw [hlocate]
  dsimp only
  rw [hplace]
  dsimp only
  unfold Discovery.below Discovery.walk
  simp only [List.append_nil, gallery_files, gallery_directories]
  rw [List.mergeSort_of_pairwise (by decide +kernel)]
  refine congrArg Except.ok (Prod.ext ?_ (List.map_eq_nil_iff.2 ?_))
  · decide +kernel
  · decide +kernel

/-- The move of the class, and that of the trait. -/
def galleryMoves : Move × Move :=
  (⟨⟨"/", ["p", "A.php"]⟩, ⟨"/", ["p", "AbstractA.php"]⟩⟩,
    ⟨⟨"/", ["p", "B.php"]⟩, ⟨"/", ["p", "BTrait.php"]⟩⟩)

theorem gallery_moved :
    ((perform gallery sketches { dryRun := false }
      [Policy.abstractBeginning, Policy.traitEnding] ⟨"/", ["p"]⟩).result.toOption.map fun report =>
        (report.moves.applied, report.moves.skipped)) =
      some ([galleryMoves.1], [galleryMoves.2]) := by
  have hresolve : gallery.resolve ⟨"/", ["p"]⟩ = ⟨"/", ["p"]⟩ := by decide +kernel
  unfold perform load discover
  simp only [hresolve, gallery_discovered]
  decide +kernel

theorem perform_dry_gallery :
    ∃ report planned,
      (perform gallery sketches { dryRun := false }
        [Policy.abstractBeginning, Policy.traitEnding] ⟨"/", ["p"]⟩).result = .ok report ∧
      (perform gallery sketches { dryRun := true }
        [Policy.abstractBeginning, Policy.traitEnding] ⟨"/", ["p"]⟩).result =
          .ok { report with dryRun := true, moves := { discarded := planned } } ∧
      MovePlan.Settled planned [galleryMoves.1] [galleryMoves.2] := by
  have hmoved := gallery_moved
  generalize hresult : (perform gallery sketches { dryRun := false }
    [Policy.abstractBeginning, Policy.traitEnding] ⟨"/", ["p"]⟩).result = result at hmoved
  cases result with
  | error cause => cases hmoved
  | ok report =>
      obtain ⟨happlied, hskipped⟩ := Prod.mk.inj (Option.some.inj hmoved)
      obtain ⟨planned, hdry, hsettled, -⟩ :=
        (perform_dry gallery sketches {} [Policy.abstractBeginning, Policy.traitEnding]
          ⟨"/", ["p"]⟩).2 report hresult
      rw [happlied, hskipped] at hsettled
      exact ⟨report, planned, rfl, hdry, hsettled⟩

end Run

end Rechristen
