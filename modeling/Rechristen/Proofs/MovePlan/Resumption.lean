import Rechristen.Proofs.FileTree.Waypoints
import Rechristen.Proofs.MovePlan.Commit

/-!
# An interrupted commit can be resumed

A commit stops in the middle, and the same moves are planned and carried out once more.  A move that
was made has no source any more; it is recognised by its target, where something stands.  So is a
move that was skipped.  Both are skipped the second time, and the rest goes on as if nothing had
happened.

This takes plans in which files move, and no target is a source or lies below one, however the paths
are written (`Unentangled`).  Otherwise a file may leave a place at which a move found it the first
time.  Here whatever stands at a target stays there (`Keeps`), so that a move once concluded is
concluded for good (`Concluded.of_keeps`).

A move may also fail.  Then it fails again, in the same way (`carryOut_again`).
-/

namespace Rechristen.MovePlan

variable {t u : FileTree} {m : Move} {moves before : List Move} {sources : List Location}

/-! ## What moving files leaves alone -/

/-- The source of a move is one of the places given, and its target is none of them and is not
reached through any of them. -/
structure Unentangled (sources : List Location) (t : FileTree) (m : Move) : Prop where
  source : t.endpoint m.source ∈ sources
  target : ∀ q ∈ t.waypoints m.target, q ∉ sources

theorem Unentangled.congr (hm : Unentangled sources t m) (hhome : u.home = t.home) :
    Unentangled sources u m := by
  refine ⟨?_, ?_⟩
  · rw [FileTree.endpoint_congr hhome]
    exact hm.source
  · rw [FileTree.waypoints_congr hhome]
    exact hm.target

/-- What stands in `t`, other than at the places given, stands in `u` as well, and no directory came
to one of them. -/
structure Keeps (sources : List Location) (t u : FileTree) : Prop where
  wellFormed : u.WellFormed
  home : u.home = t.home
  kept : ∀ place entry, place ∉ sources → t.at? place = some entry → u.at? place = some entry
  plain : ∀ place ∈ sources, u.at? place = some .directory → t.at? place = some .directory

namespace Keeps

variable {v : FileTree}

theorem refl (ht : t.WellFormed) : Keeps sources t t :=
  ⟨ht, rfl, fun _ _ _ => id, fun _ _ => id⟩

theorem trans (htu : Keeps sources t u) (huv : Keeps sources u v) : Keeps sources t v where
  wellFormed := huv.wellFormed
  home := huv.home.trans htu.home
  kept place entry hplace hfound := huv.kept place entry hplace (htu.kept place entry hplace hfound)
  plain place hplace hfound := htu.plain place hplace (huv.plain place hplace hfound)

end Keeps

/-- Directories are made on the way to a target, and so at none of the places given. -/
theorem Unentangled.keeps_readied (hm : Unentangled sources t m) (ht : t.WellFormed) :
    Keeps sources t (readied t m) := by
  have hadds := FileTree.adds_makeDirectories t m.target.parent
  refine ⟨(ht.grows_makeDirectories _).wellFormed, hadds.home, fun _ _ _ => hadds.kept, ?_⟩
  intro place hplace hdirectory
  rcases hadds.found place with hsame | ⟨hway, -, -⟩
  · rw [← hsame]
    exact hdirectory
  · exact absurd hplace (hm.target place (FileTree.waypoints_parent_subset t m.target hway))

/-- Nothing is below a file, so nothing else moves with it. -/
theorem keeps_relocated (ht : t.WellFormed) (hplain : ∀ q ∈ sources, t.at? q ≠ some .directory)
    {source target : Location} (hsource : source ∈ sources) (hfree : t.at? target = none)
    (hu : (t.relocated source target).WellFormed) :
    Keeps sources t (t.relocated source target) := by
  have hroot : source ≠ [] := by
    rintro rfl
    exact hplain [] hsource rfl
  have halone : ∀ {place : Location} {entry : Entry}, t.at? place = some entry →
      place ≠ source → ¬ source <+: place := by
    intro place entry hfound hne hwithin
    exact hplain source hsource (ht.at?_of_above hwithin (Ne.symm hne) hfound)
  refine ⟨hu, rfl, ?_, ?_⟩
  · intro place entry hplace hfound
    have hne : place ≠ source := fun heq => hplace (heq ▸ hsource)
    have hmoved := ht.at?_relocated hroot hfree hfound
    rwa [FileTree.relocate_of_outside (halone hfound hne)] at hmoved
  · intro place hplace hdirectory
    have hne : place ≠ [] := fun heq => hplain place hplace (heq ▸ rfl)
    obtain ⟨e, he, hpair⟩ := List.mem_map.1 (FileTree.mem_of_at? hne hdirectory)
    obtain ⟨hgoes, hkind⟩ := Prod.mk.inj hpair
    have hfound : t.at? e.1 = some .directory := by
      rw [← hkind]
      exact ht.at?_of_mem he
    have hother : e.1 ≠ source := fun heq => hplain source hsource (heq ▸ hfound)
    rw [FileTree.relocate_of_outside (halone hfound hother)] at hgoes
    rwa [← hgoes]

/-! ## Moves that are concluded -/

/-- The directory of a move's target is there, and so is something at the target. -/
structure Concluded (t : FileTree) (m : Move) : Prop where
  allowed : FileTree.refused? m.target.parent = none
  directory : t.LeadsToDirectory (t.start m.target) m.target.parent.names
  taken : ∃ place entry, t.locate m.target = .ok place ∧ t.at? place = some entry

/-- A move that is concluded is skipped, and nothing changes. -/
theorem Concluded.carryOut_eq (hm : Concluded t m) : carryOut t m = .skipped t := by
  obtain ⟨place, entry, hlocate, hentry⟩ := hm.taken
  have hmaking : t.makeDirectories m.target.parent = ⟨none, t⟩ :=
    FileTree.makeDirectories_of_leads hm.allowed hm.directory
  simp only [carryOut, hmaking, FileTree.look, hlocate, hentry]

/-- Nothing on the way to the target of a move is taken away. -/
theorem Keeps.directories (hkeeps : Keeps sources t u) (hm : Unentangled sources t m) :
    ∀ q ∈ t.waypoints m.target, t.at? q = some .directory → u.at? q = some .directory :=
  fun q hq => hkeeps.kept q .directory (hm.target q hq)

theorem Keeps.leads (hkeeps : Keeps sources t u) (hm : Unentangled sources t m)
    (hleads : t.LeadsToDirectory (t.start m.target) m.target.parent.names) :
    u.LeadsToDirectory (u.start m.target) m.target.parent.names := by
  rw [FileTree.start_congr hkeeps.home]
  refine hleads.of_kept fun q hq => hkeeps.directories hm q ?_
  exact FileTree.waypoints_parent_subset t m.target hq

/-- A move that is concluded stays so. -/
theorem Concluded.of_keeps (hconcluded : Concluded t m) (hkeeps : Keeps sources t u)
    (hm : Unentangled sources t m) : Concluded u m := by
  obtain ⟨place, entry, hlocate, hentry⟩ := hconcluded.taken
  refine ⟨hconcluded.allowed, hkeeps.leads hm hconcluded.directory, place, entry, ?_, ?_⟩
  · exact FileTree.locate_of_kept hlocate hkeeps.home (hkeeps.directories hm)
  · refine hkeeps.kept place entry (hm.target place ?_) hentry
    rw [FileTree.eq_endpoint_of_locate hlocate]
    exact FileTree.endpoint_mem_waypoints t m.target

/-! ## One move -/

/-- Unless a file was moved, a move that is tried again has the same outcome. -/
theorem carryOut_again (t : FileTree) (m : Move) : carryOut (readied t m) m = carryOut t m := by
  unfold carryOut readied
  rw [FileTree.makeDirectories_again]

/-- **One move.**  It fails, or it is concluded afterwards, and then whatever stood elsewhere than
at a source is still there. -/
theorem carryOut_concludes (hm : Unentangled sources t m) (ht : t.WellFormed)
    (hplain : ∀ q ∈ sources, t.at? q ≠ some .directory) :
    (∃ trouble, carryOut t m = .failed trouble (readied t m)) ∨
      ∃ u, (carryOut t m = .skipped u ∨ carryOut t m = .applied u) ∧ Keeps sources t u ∧
        Concluded u m := by
  have hready : Keeps sources t (readied t m) := hm.keeps_readied ht
  have hm' : Unentangled sources (readied t m) m := hm.congr hready.home
  rcases carryOut_cases ht m with hfailed | ⟨hmade, hrest⟩
  · exact Or.inl hfailed
  obtain ⟨hallowed, hleads⟩ := FileTree.leads_of_makeDirectories hmade
  have hleads : (readied t m).LeadsToDirectory ((readied t m).start m.target)
      m.target.parent.names := by
    rw [FileTree.start_congr hready.home]
    exact hleads
  rcases hrest with ⟨hskipped, entry, hlook⟩ | ⟨u, happlied, hlook, hmove, hu, -⟩
  · -- Something stands at the target, which is all there is to conclude.
    refine Or.inr ⟨_, Or.inl hskipped, hready, hallowed, hleads, ?_⟩
    unfold FileTree.look at hlook
    split at hlook
    case h_1 place hlocate => exact ⟨place, entry, hlocate, Except.ok.inj hlook⟩
    case h_2 => cases hlook
    case h_3 => cases hlook
  · -- The target was free, so what stands there afterwards is what was at the source.
    obtain ⟨source, target, hsource, htarget, hne, hthere, -, rfl⟩ := FileTree.move?_eq_some hmove
    have hfree : (readied t m).at? target = none := by
      simpa [FileTree.look, htarget] using hlook
    have hmem : source ∈ sources := by
      rw [FileTree.eq_endpoint_of_locate hsource]
      exact hm'.source
    have hmoved : Keeps sources (readied t m) ((readied t m).relocated source target) :=
      keeps_relocated hready.wellFormed (fun q hq h => hplain q hq (hready.plain q hq h)) hmem
        hfree hu
    obtain ⟨entry, hentry⟩ := Option.ne_none_iff_exists'.1 hthere
    have hthere : ((readied t m).relocated source target).at? target = some entry := by
      have hgone := hready.wellFormed.at?_relocated hne hfree hentry
      rwa [FileTree.relocate_self] at hgone
    refine Or.inr ⟨_, Or.inr happlied, hready.trans hmoved, hallowed, hmoved.leads hm' hleads,
      target, entry, ?_, hthere⟩
    exact FileTree.locate_of_kept htarget hmoved.home (hmoved.directories hm')

/-! ## Any number of moves -/

theorem commitMoves_keeps (hmoves : ∀ m ∈ moves, Unentangled sources t m) (ht : t.WellFormed)
    (hplain : ∀ q ∈ sources, t.at? q ≠ some .directory) :
    Keeps sources t (commitMoves t moves).tree := by
  induction moves generalizing t with
  | nil => exact Keeps.refl ht
  | cons m rest ih =>
      have hm := hmoves m List.mem_cons_self
      rcases carryOut_concludes hm ht hplain with ⟨trouble, hfailed⟩ | ⟨u, hcarried, hkeeps, -⟩
      · simp only [commitMoves, hfailed]
        exact hm.keeps_readied ht
      · have hlater : Keeps sources u (commitMoves u rest).tree := by
          refine ih (fun n hn => ?_) hkeeps.wellFormed ?_
          · exact (hmoves n (List.mem_cons_of_mem m hn)).congr hkeeps.home
          · exact fun q hq h => hplain q hq (hkeeps.plain q hq h)
        rcases hcarried with hskipped | happlied
        · simp only [commitMoves, hskipped]
          exact hkeeps.trans hlater
        · simp only [commitMoves, happlied]
          exact hkeeps.trans hlater

/-- By induction on the moves before the cut.  The first of them failed, and the commit stops there
again; or it is concluded in the tree that was left, and is skipped. -/
theorem resume (hmoves : ∀ m ∈ before, Unentangled sources t m) (ht : t.WellFormed)
    (hplain : ∀ q ∈ sources, t.at? q ≠ some .directory) (rest : List Move) :
    (commitMoves (commitMoves t before).tree (before ++ rest)).tree =
        (commitMoves t (before ++ rest)).tree ∧
      (commitMoves (commitMoves t before).tree (before ++ rest)).trouble =
        (commitMoves t (before ++ rest)).trouble ∧
      ∀ m ∈ (commitMoves t before).report.applied,
        m ∈ (commitMoves (commitMoves t before).tree (before ++ rest)).report.skipped := by
  induction before generalizing t with
  | nil => exact ⟨rfl, rfl, fun m hm => absurd hm List.not_mem_nil⟩
  | cons m before ih =>
      have hm := hmoves m List.mem_cons_self
      rcases carryOut_concludes hm ht hplain with
        ⟨trouble, hfailed⟩ | ⟨u, hcarried, hkeeps, hconcluded⟩
      · have hagain := (carryOut_again t m).trans hfailed
        simp only [List.cons_append, commitMoves, hfailed, hagain]
        exact ⟨trivial, trivial, fun m hm => absurd hm List.not_mem_nil⟩
      · have hrest : ∀ n ∈ before, Unentangled sources u n := fun n hn =>
          (hmoves n (List.mem_cons_of_mem m hn)).congr hkeeps.home
        have hplain' : ∀ q ∈ sources, u.at? q ≠ some .directory :=
          fun q hq h => hplain q hq (hkeeps.plain q hq h)
        obtain ⟨htree, htrouble, hskips⟩ := ih hrest hkeeps.wellFormed hplain'
        have hleft : Concluded (commitMoves u before).tree m :=
          hconcluded.of_keeps (commitMoves_keeps hrest hkeeps.wellFormed hplain')
            (hm.congr hkeeps.home)
        rcases hcarried with hskipped | happlied
        · simp only [List.cons_append, commitMoves, hskipped, hleft.carryOut_eq]
          exact ⟨htree, htrouble, fun n hn => List.mem_cons_of_mem m (hskips n hn)⟩
        · simp only [List.cons_append, commitMoves, happlied, hleft.carryOut_eq]
          refine ⟨htree, htrouble, fun n hn => ?_⟩
          rcases List.mem_cons.1 hn with rfl | hn
          · exact List.mem_cons_self
          · exact List.mem_cons_of_mem m (hskips n hn)

/-! ## Planning once more -/

/-- The plan after moves were planned one after the other. -/
def planAll (policy : CollisionPolicy) (moves : List Move) : MovePlan :=
  moves.foldl (fun p m => (p.judge policy m false).plan p) {}

/-- A move of a file that was not planned is put behind the others. -/
theorem judge_of_fresh {p : MovePlan} (hfresh : ∀ n ∈ p.moves, n.source ≠ m.source)
    (hgoes : m.source ≠ m.target) (policy : CollisionPolicy) :
    (p.judge policy m false).plan p = ⟨p.moves ++ [m]⟩ := by
  have htarget : p.target? m.source = none := by
    simpa [target?] using hfresh
  simp [judge, hgoes, htarget, Verdict.plan, put, contains]

/-- Moves of different files, planned one after the other. -/
theorem foldl_judge {earlier later : List Move}
    (hnodup : ((earlier ++ later).map Move.source).Nodup)
    (hgoes : ∀ m ∈ later, m.source ≠ m.target) (policy : CollisionPolicy) :
    later.foldl (fun p m => (p.judge policy m false).plan p) ⟨earlier⟩ =
      (⟨earlier ++ later⟩ : MovePlan) := by
  induction later generalizing earlier with
  | nil => rw [List.foldl_nil, List.append_nil]
  | cons m later ih =>
      obtain ⟨hm, hlater⟩ := List.forall_mem_cons.1 hgoes
      have hfresh : ∀ n ∈ earlier, n.source ≠ m.source := by
        intro n hn heq
        rw [List.map_append, List.nodup_append] at hnodup
        exact hnodup.2.2 _ (List.mem_map_of_mem hn) m.source (by simp) heq
      rw [List.append_cons] at hnodup
      rw [List.foldl_cons, judge_of_fresh hfresh hm, ih hnodup hlater, List.append_assoc,
        List.singleton_append]

/-- The moves of a plan, planned again, make the same plan. -/
theorem planAll_moves {p : MovePlan} (hp : p.WellFormed)
    (hgoes : ∀ m ∈ p.moves, m.source ≠ m.target) (policy : CollisionPolicy) :
    planAll policy p.moves = p := by
  have hnodup : (([] ++ p.moves).map Move.source).Nodup := hp
  exact foldl_judge hnodup hgoes policy

/-- **Resumption.**  Take a plan whose sources are no directories and in which no target is a source
or lies below one.  Carry any number of its moves out, and stop, whether or not the last one failed;
then plan the same moves again, and commit.  The tree is the one that a single commit of the plan
makes, and the commit fails if and only if that one does, and at the same move.  Each move that was
applied before the stop is reported as skipped. -/
theorem resumed_commit (ht : t.WellFormed) {p : MovePlan} (hp : p.WellFormed)
    (hfiles : ∀ m ∈ p.moves, t.at? (t.endpoint m.source) ≠ some .directory)
    (hapart : ∀ m ∈ p.moves, ∀ n ∈ p.moves, t.endpoint m.source ∉ t.waypoints n.target)
    (policy : CollisionPolicy) (count : Nat) :
    let stopped := commitMoves t (p.moves.take count)
    let resumed := ((planAll policy p.moves).commit stopped.tree).1
    resumed.tree = (p.commit t).1.tree ∧ resumed.trouble = (p.commit t).1.trouble ∧
      ∀ m ∈ stopped.report.applied, m ∈ resumed.report.skipped := by
  have hmoves : ∀ m ∈ p.moves, Unentangled (p.moves.map fun n => t.endpoint n.source) t m := by
    intro m hm
    refine ⟨List.mem_map_of_mem hm, fun q hq hsource => ?_⟩
    obtain ⟨n, hn, rfl⟩ := List.mem_map.1 hsource
    exact hapart n hn m hm hq
  have hplain : ∀ q ∈ p.moves.map fun n => t.endpoint n.source, t.at? q ≠ some .directory := by
    intro q hq
    obtain ⟨n, hn, rfl⟩ := List.mem_map.1 hq
    exact hfiles n hn
  have hgoes : ∀ m ∈ p.moves, m.source ≠ m.target := by
    intro m hm heq
    refine hapart m hm m hm ?_
    rw [heq]
    exact FileTree.endpoint_mem_waypoints t m.target
  have hbefore : ∀ m ∈ p.moves.take count,
      Unentangled (p.moves.map fun n => t.endpoint n.source) t m :=
    fun m hm => hmoves m (List.mem_of_mem_take hm)
  have hresume := resume hbefore ht hplain (p.moves.drop count)
  rw [List.take_append_drop] at hresume
  dsimp only
  rw [planAll_moves hp hgoes]
  exact hresume

/-! ### Stopped before the last of four moves -/

/-- Five files in one directory. -/
def fiveFiles : FileTree where
  home := ["proj"]
  entries :=
    [(["proj"], .directory), (["proj", "A.php"], .file [65]), (["proj", "B.php"], .file [66]),
      (["proj", "C.php"], .file [67]), (["proj", "D.php"], .file [68]),
      (["proj", "E.php"], .file [69])]

/-- Two files are to go to one place, in a directory that is not there, and one to a place that is
taken. -/
def rivalMoves : MovePlan where
  moves :=
    [⟨⟨"", ["A.php"]⟩, ⟨"", ["new", "X.php"]⟩⟩, ⟨⟨"", ["B.php"]⟩, ⟨"/", ["proj", "new", "X.php"]⟩⟩,
      ⟨⟨"/", ["proj", "C.php"]⟩, ⟨"", ["D.php"]⟩⟩,
      ⟨⟨"", ["E.php"]⟩, ⟨"", ["new", "..", "F.php"]⟩⟩]

theorem resumed_commit_rivals :
    fiveFiles.WellFormed ∧ rivalMoves.WellFormed ∧
    (commitMoves fiveFiles (rivalMoves.moves.take 3)).report.applied =
      [⟨⟨"", ["A.php"]⟩, ⟨"", ["new", "X.php"]⟩⟩] ∧
    (rivalMoves.commit fiveFiles).1.trouble = none ∧
    ((planAll .error rivalMoves.moves).commit
        (commitMoves fiveFiles (rivalMoves.moves.take 3)).tree).1.tree =
      (rivalMoves.commit fiveFiles).1.tree ∧
    ⟨⟨"", ["A.php"]⟩, ⟨"", ["new", "X.php"]⟩⟩ ∈ ((planAll .error rivalMoves.moves).commit
        (commitMoves fiveFiles (rivalMoves.moves.take 3)).tree).1.report.skipped := by
  have htree : fiveFiles.WellFormed := by decide +kernel
  have hplan : rivalMoves.WellFormed := by decide +kernel
  have happlied : (commitMoves fiveFiles (rivalMoves.moves.take 3)).report.applied =
      [⟨⟨"", ["A.php"]⟩, ⟨"", ["new", "X.php"]⟩⟩] := by decide +kernel
  have hfiles : ∀ m ∈ rivalMoves.moves,
      fiveFiles.at? (fiveFiles.endpoint m.source) ≠ some .directory := by decide +kernel
  have hapart : ∀ m ∈ rivalMoves.moves, ∀ n ∈ rivalMoves.moves,
      fiveFiles.endpoint m.source ∉ fiveFiles.waypoints n.target := by decide +kernel
  obtain ⟨hsame, -, hskipped⟩ := resumed_commit htree hplan hfiles hapart .error 3
  refine ⟨htree, hplan, happlied, by decide +kernel, hsame, hskipped _ ?_⟩
  rw [happlied]
  exact List.mem_singleton_self _

end Rechristen.MovePlan
