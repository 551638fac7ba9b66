import Rechristen.Policy.Catalog
import Rechristen.Proofs.Session.Renaming

/-!
# A session is finalized once

A session goes through two stages.  While it is open, declarations are renamed and nothing happens
to the file tree.  The first operation that finalizes it, by name or because the session is left,
closes it, and this also if a move fails.  From then on every operation is answered without changing
anything but the log: renaming fails, and finalizing gives the first report again.

Renaming says nothing about the stage (`standing_apply`), so the stage of a session is told by the
operations alone: it is open as long as none of them finalizes (`Open.after`) and closed from the
first one on (`Closed.after`).
-/

namespace Rechristen

namespace Session

/-! ## Renaming leaves the stage alone -/

/-- What a session knows of its end: the mode, what became of the moves, and whether it is over. -/
def standing (s : Session) : Bool × Option MovePlan.Report × Bool :=
  (s.dryRun, s.commit, s.finalized)

variable {s : Session} {stage : Bool × Option MovePlan.Report × Bool}

theorem standing_register (s : Session) (old new : Name) :
    (s.register old new).2.standing = s.standing := by
  simp only [standing, register, note]

theorem standing_planMove (s : Session) (m : Move) (supersede : Bool) :
    (s.planMove m supersede).state.standing = s.standing := by
  unfold planMove
  dsimp only
  split <;> rfl

theorem standing_planFile (s : Session) (id : DeclarationId) (d : Declaration) :
    (s.planFile id d).state.standing = s.standing := by
  unfold planFile
  split
  · rfl
  split
  · rfl
  case h_2 target _ =>
    refine Attempt.state_andThen (fun t : Session => t.standing = s.standing)
      (standing_planMove s ⟨d.path, target⟩ d.plannedPath.isSome) fun accepted t ht => ?_
    split
    · exact ht
    split
    · exact ht
    · exact ht

theorem standing_respellLocal (s : Session) (source : Source) (p : Policy) :
    (s.respellLocal source p).state.1.standing = s.standing := by
  unfold respellLocal
  dsimp only
  split
  · simp only [Attempt.success]
    split <;> rfl
  · rfl

theorem standing_carryOut (s : Session) (source : Source) (id : DeclarationId) (d : Declaration)
    (new : Name) (p : Policy) : (s.carryOut source id d new p).state.1.standing = s.standing := by
  unfold carryOut
  refine Attempt.state_andThen (fun left : Session × Source => left.1.standing = s.standing) rfl ?_
  rintro _ ⟨named, edited⟩ hnamed
  refine Attempt.state_andThen (fun left : Session × Source => left.1.standing = s.standing) ?_ ?_
  · split
    · exact (standing_respellLocal _ edited p).trans hnamed
    · exact hnamed
  · rintro _ ⟨respelled, edited'⟩ hrespelled
    refine Attempt.state_andThen (fun left : Session × Source => left.1.standing = s.standing) ?_ ?_
    · exact (standing_planFile respelled id _).trans hrespelled
    · rintro newPath ⟨planned, _⟩ hplanned
      exact hplanned

/-- **Renaming leaves the stage alone**, whether or not it succeeds. -/
theorem standing_apply (s : Session) (source : Source) (id : DeclarationId)
    (newName : Option Name) (p : Policy) :
    (s.apply source id newName p).state.1.standing = s.standing := by
  rcases apply_eq s source id newName p with ⟨-, happly⟩ | ⟨-, ⟨-, happly⟩ |
    ⟨d, new, -, -, -, ⟨-, reason, events, happly⟩ | ⟨-, happly⟩⟩⟩
  · rw [happly]
    rfl
  · rw [happly]
    rfl
  · rw [happly]
    rfl
  · rw [happly, standing_carryOut, standing_register]

/-! ## The file tree at the end -/

theorem finalize_dry_tree (s : Session) (tree : FileTree) :
    (s.finalize tree (some true)).state.2 = tree := by
  unfold finalize
  split <;> rfl

/-- A session that is left because of a failure moves no file. -/
theorem leave_failed_tree (s : Session) (tree : FileTree) : (s.leave tree true).state.2 = tree := by
  unfold leave
  split
  · rfl
  · exact finalize_dry_tree s tree

/-! ## Operations -/

variable {n : Nat}

/-- What can be asked of a session that works on `n` files. -/
inductive Operation (n : Nat) where
  | rename (file : Fin n) (id : DeclarationId) (newName : Option Name) (policy : Policy)
  /-- Finalize the session, in a mode told or in its own. -/
  | finalize (dryRun : Option Bool)
  /-- Leave the session, perhaps because of a failure. -/
  | leave (failed : Bool)

namespace Operation

/-- The operation closes a session that is open. -/
def finalizes : Operation n → Bool
  | rename _ _ _ _ => false
  | finalize _ => true
  | leave _ => true

/-- No file may be moved: the operation or, where it says nothing, the session tells so. -/
def isDry (dryRun : Bool) : Operation n → Bool
  | rename _ _ _ _ => true
  | finalize told => told.getD dryRun
  | leave failed => failed || dryRun

end Operation

/-- What an operation has to say. -/
inductive Answer where
  | renamed (record : Option RenameRecord)
  | finalized (report : MovePlan.Report)
  | left
  deriving DecidableEq

/-- A session, the files it works on and the files there are. -/
structure World (n : Nat) where
  session : Session
  sources : Vector Source n
  tree : FileTree

namespace World

/-- The world with events reported. -/
def note (w : World n) (events : List Event) : World n :=
  { w with session := w.session.note events }

/-- Carry one operation out. -/
def perform (w : World n) : Operation n → Attempt (World n) Answer
  | .rename file id newName p =>
    ((w.session.apply w.sources[file] id newName p).map .renamed).into fun left =>
      { w with session := left.1, sources := w.sources.set file left.2 }
  | .finalize dryRun =>
    ((w.session.finalize w.tree dryRun).map .finalized).into fun left =>
      { w with session := left.1, tree := left.2 }
  | .leave failed =>
    ((w.session.leave w.tree failed).map fun _ => .left).into fun left =>
      { w with session := left.1, tree := left.2 }

/-- The world after operations, one after the other.  One that fails does not keep the next one from
being asked for. -/
def after (w : World n) (operations : List (Operation n)) : World n :=
  operations.foldl (fun w o => (w.perform o).state) w

theorem after_append (w : World n) (first second : List (Operation n)) :
    w.after (first ++ second) = (w.after first).after second :=
  List.foldl_append

end World

/-! ## Closed sessions -/

namespace Operation

/-- The answer of a session that is closed and has a report. -/
def answerClosed (report : MovePlan.Report) : Operation n → Except Failure Answer
  | rename _ _ _ _ => .error .finalized
  | finalize _ => .ok (.finalized report)
  | leave _ => .ok .left

end Operation

namespace World

variable {w : World n} {report : MovePlan.Report}

/-- The session is closed, and this is its report. -/
structure Closed (report : MovePlan.Report) (w : World n) : Prop where
  finalized : w.session.finalized = true
  report : w.session.commit.getD {} = report

/-- A closed session answers, and nothing changes but the log. -/
theorem Closed.perform (hw : w.Closed report) (op : Operation n) :
    (w.perform op).result = op.answerClosed report ∧
      ∃ events, (w.perform op).state = w.note events := by
  obtain ⟨session, sources, tree⟩ := w
  obtain ⟨hfinalized, rfl⟩ := hw
  dsimp only at hfinalized
  cases op with
  | rename file id newName p =>
      have hrefused : session.apply sources[file] id newName p =
          .failure .finalized (session, sources[file]) := by
        rw [Session.apply, if_pos hfinalized]
      simp only [World.perform, hrefused]
      refine ⟨rfl, [], ?_⟩
      simp [Attempt.failure, Attempt.map, Attempt.into, World.note, Session.note]
  | finalize dryRun =>
      simp only [World.perform, Session.finalize, hfinalized, if_true]
      exact ⟨rfl, _, rfl⟩
  | leave failed =>
      simp only [World.perform, Session.leave, hfinalized, if_true]
      refine ⟨rfl, [], ?_⟩
      simp [Attempt.success, Attempt.map, Attempt.into, World.note, Session.note]

/-- A closed session stays closed and keeps its report. -/
theorem Closed.after (hw : w.Closed report) (operations : List (Operation n)) :
    (w.after operations).Closed report := by
  induction operations generalizing w with
  | nil => exact hw
  | cons op rest ih =>
      obtain ⟨-, events, hstate⟩ := hw.perform op
      have hnext : (w.perform op).state.Closed report := by
        rw [hstate]
        exact ⟨hw.finalized, hw.report⟩
      exact ih hnext

/-! ## Open sessions -/

/-- The session is open in a mode, and has no report yet. -/
structure Open (dryRun : Bool) (w : World n) : Prop where
  mode : w.session.dryRun = dryRun
  report : w.session.commit = none
  finalized : w.session.finalized = false

variable {dryRun : Bool}

theorem Open.standing (hw : w.Open dryRun) : w.session.standing = (dryRun, none, false) := by
  rw [Session.standing, hw.mode, hw.report, hw.finalized]

/-- An operation that does not finalize a session leaves it open, and the tree as it is. -/
theorem Open.perform (hw : w.Open dryRun) {op : Operation n} (hop : op.finalizes = false) :
    (w.perform op).state.Open dryRun ∧ (w.perform op).state.tree = w.tree := by
  cases op with
  | finalize _ => cases hop
  | leave _ => cases hop
  | rename file id newName p =>
      have hstanding :=
        (standing_apply w.session w.sources[file] id newName p).trans hw.standing
      obtain ⟨hmode, hrest⟩ := Prod.mk.inj hstanding
      obtain ⟨hreport, hfinalized⟩ := Prod.mk.inj hrest
      exact ⟨⟨hmode, hreport, hfinalized⟩, rfl⟩

theorem Open.after (hw : w.Open dryRun) {operations : List (Operation n)}
    (hall : ∀ o ∈ operations, o.finalizes = false) : (w.after operations).Open dryRun := by
  induction operations generalizing w with
  | nil => exact hw
  | cons op rest ih =>
      obtain ⟨hop, hrest⟩ := List.forall_mem_cons.1 hall
      exact ih (hw.perform hop).1 hrest

/-- What can be known of the moves from an operation that closed a session: its report, or what the
session tells after it was left, or nothing if it failed. -/
def firstReport (a : Attempt (World n) Answer) : MovePlan.Report :=
  match a.result with
  | .ok (.finalized report) => report
  | .ok _ => a.state.session.commit.getD {}
  | .error _ => {}

/-- Finalizing an open session closes it, and moves files only if it is no dry run. -/
theorem finalize_open {s : Session} (hopen : s.finalized = false) (hnone : s.commit = none)
    (tree : FileTree) (told : Option Bool) :
    (s.finalize tree told).state.1.finalized = true ∧
      (told.getD s.dryRun = true → (s.finalize tree told).state.2 = tree) ∧
      ((∃ report, (s.finalize tree told).result = .ok report ∧
          (s.finalize tree told).state.1.commit = some report) ∨
        ∃ cause, (s.finalize tree told).result = .error cause ∧
          (s.finalize tree told).state.1.commit = none) := by
  unfold Session.finalize
  rw [if_neg (by simp [hopen])]
  cases hmode : told.getD s.dryRun with
  | true => simp [hmode, Session.discardMoves, Attempt.success, Session.note]
  | false =>
      simp only [hmode, Bool.false_eq_true, if_false, Session.carryOutMoves]
      split
      · exact ⟨rfl, False.elim, Or.inr ⟨_, rfl, hnone⟩⟩
      · exact ⟨rfl, False.elim, Or.inl ⟨_, rfl, rfl⟩⟩

/-- An operation that finalizes an open session closes it with what it reports. -/
theorem Open.perform_finalizes (hw : w.Open dryRun) {op : Operation n}
    (hop : op.finalizes = true) :
    (w.perform op).state.Closed (firstReport (w.perform op)) ∧
      (op.isDry dryRun = true → (w.perform op).state.tree = w.tree) := by
  cases op with
  | rename file id newName p => cases hop
  | finalize told =>
      obtain ⟨hclosed, hdry, hreport⟩ := finalize_open hw.finalized hw.report w.tree told
      rw [hw.mode] at hdry
      refine ⟨⟨hclosed, ?_⟩, hdry⟩
      simp only [World.perform, Attempt.map, Attempt.into, firstReport]
      rcases hreport with ⟨report, hresult, hcommit⟩ | ⟨cause, hresult, hcommit⟩
      · rw [hresult, hcommit]
        rfl
      · rw [hresult, hcommit]
        rfl
  | leave failed =>
      obtain ⟨hclosed, hdry, hreport⟩ := finalize_open hw.finalized hw.report w.tree
        (if failed then some true else none)
      have hleave : w.session.leave w.tree failed =
          (w.session.finalize w.tree (if failed then some true else none)).map fun _ => () := by
        rw [Session.leave, if_neg (by simp [hw.finalized])]
      rw [hw.mode] at hdry
      simp only [World.perform, hleave, Attempt.map, Attempt.into, firstReport]
      refine ⟨⟨hclosed, ?_⟩, fun hmode => hdry ?_⟩
      · rcases hreport with ⟨report, hresult, hcommit⟩ | ⟨cause, hresult, hcommit⟩
        · rw [hresult, hcommit]
          rfl
        · rw [hresult, hcommit]
          rfl
      · cases failed with
        | true => rfl
        | false => exact hmode

/-- Operations of which one finalizes have a first one that does. -/
theorem exists_first {operations : List (Operation n)}
    (hsome : ∃ o ∈ operations, o.finalizes = true) :
    ∃ earlier first later, operations = earlier ++ first :: later ∧ first.finalizes = true ∧
      ∀ o ∈ earlier, o.finalizes = false := by
  obtain ⟨first, hfirst⟩ := Option.isSome_iff_exists.1 (List.find?_isSome.2 hsome)
  obtain ⟨hfinalizes, earlier, later, hsplit, hearlier⟩ := List.find?_eq_some_iff_append.1 hfirst
  exact ⟨earlier, first, later, hsplit, hfinalizes, fun o ho => by simpa using hearlier o ho⟩

/-- After a first operation that finalizes an open session it is closed, whatever comes later. -/
theorem Open.closed_after (hw : w.Open dryRun) {earlier later : List (Operation n)}
    {first : Operation n} (hfirst : first.finalizes = true)
    (hearlier : ∀ o ∈ earlier, o.finalizes = false) :
    (w.after (earlier ++ first :: later)).Closed
      (firstReport ((w.after earlier).perform first)) := by
  rw [after_append]
  exact ((hw.after hearlier).perform_finalizes hfirst).1.after later

/-- **A session is finalized once.**  Take an open session and any operations on it, whether or not
they fail.  The file tree is changed only by the first operation that finalizes, and only if that
one is no dry run.  Every operation after it, also if it failed, is answered with an error if it
renames and with the first report if it finalizes, and changes nothing but the log. -/
theorem finalized_once (w : World n) (hopen : w.session.finalized = false)
    (hnone : w.session.commit = none) (before : List (Operation n)) (op : Operation n) :
    (((w.after before).perform op).state.tree ≠ (w.after before).tree →
      op.finalizes = true ∧ (∀ o ∈ before, o.finalizes = false) ∧
        op.isDry w.session.dryRun = false) ∧
    ∀ earlier first later, before = earlier ++ first :: later → first.finalizes = true →
      (∀ o ∈ earlier, o.finalizes = false) →
      ((w.after before).perform op).result =
          op.answerClosed (firstReport ((w.after earlier).perform first)) ∧
        ∃ events, ((w.after before).perform op).state = (w.after before).note events := by
  have hw : w.Open w.session.dryRun := ⟨rfl, hnone, hopen⟩
  have hclosed : ∀ earlier first later, before = earlier ++ first :: later →
      first.finalizes = true → (∀ o ∈ earlier, o.finalizes = false) →
      (w.after before).Closed (firstReport ((w.after earlier).perform first)) := by
    rintro earlier first later rfl hfirst hearlier
    exact hw.closed_after hfirst hearlier
  refine ⟨fun hchanged => ?_, fun earlier first later hsplit hfirst hearlier =>
    (hclosed earlier first later hsplit hfirst hearlier).perform op⟩
  have hbefore : ∀ o ∈ before, o.finalizes = false := by
    intro o ho
    refine Bool.eq_false_iff.2 fun hfinalizes => hchanged ?_
    obtain ⟨earlier, first, later, hsplit, hfirst, hearlier⟩ := exists_first ⟨o, ho, hfinalizes⟩
    obtain ⟨-, events, hstate⟩ :=
      (hclosed earlier first later hsplit hfirst hearlier).perform op
    rw [hstate]
    rfl
  have hstill := hw.after hbefore
  cases hop : op.finalizes with
  | false => exact absurd (hstill.perform hop).2 hchanged
  | true =>
      refine ⟨rfl, hbefore, Bool.eq_false_iff.2 fun hdry => hchanged ?_⟩
      exact (hstill.perform_finalizes hop).2 hdry

/-! ### A commit that fails half-way -/

/-- A class with a file of its own. -/
def owner (shortName : Name) : Declaration where
  shortName
  space := ""
  kind := .class_
  path := ⟨"/", [shortName ++ ".php"]⟩
  ownsFile := true

/-- Two classes, of which the second has lost its file. -/
def lostFile : World 1 where
  session := { declarations := [owner "A", owner "B"] }
  sources := #v[{ path := ⟨"/", ["A.php"]⟩, content := [] }]
  tree := ⟨[], [(["A.php"], .file [])]⟩

/-- Both classes are given other names. -/
def lostFileRenames : List (Operation 1) :=
  [.rename 0 0 (some "AbstractA") Policy.abstractBeginning,
    .rename 0 1 (some "AbstractB") Policy.abstractBeginning]

/-- The file of the first class is moved, and then the session fails.  It is closed nevertheless: it
does not move a file again, whatever mode it is told, and has an empty report. -/
theorem finalized_once_lostFile :
    ((lostFile.after lostFileRenames).perform (.finalize none)).state.tree =
        ⟨[], [(["AbstractA.php"], .file [])]⟩ ∧
      ((lostFile.after lostFileRenames).perform (.finalize none)).failure? =
        some (.move (.file ⟨⟨"/", ["B.php"]⟩, ⟨"/", ["AbstractB.php"]⟩⟩)) ∧
      ∀ told, ((lostFile.after (lostFileRenames ++ [.finalize none, .leave false])).perform
        (.finalize told)).result = .ok (.finalized {}) := by
  have hfailed : ((lostFile.after lostFileRenames).perform (.finalize none)).failure? =
      some (.move (.file ⟨⟨"/", ["B.php"]⟩, ⟨"/", ["AbstractB.php"]⟩⟩)) := by
    decide +kernel
  have hreport : firstReport ((lostFile.after lostFileRenames).perform (.finalize none)) = {} := by
    unfold firstReport
    unfold Attempt.failure? at hfailed
    split at hfailed
    case h_1 => cases hfailed
    case h_2 cause hresult => rw [hresult]
  refine ⟨by decide +kernel, hfailed, fun told => ?_⟩
  have hlater := ((finalized_once lostFile rfl rfl
    (lostFileRenames ++ [.finalize none, .leave false]) (.finalize told)).2
      lostFileRenames (.finalize none) [.leave false] rfl rfl (by decide +kernel)).1
  rw [hlater, hreport]
  rfl

end World

end Session

end Rechristen
