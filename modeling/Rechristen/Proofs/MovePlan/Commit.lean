import Rechristen.Proofs.FileTree.Moves
import Rechristen.Proofs.MovePlan.Planning

/-!
# Carrying a plan out loses no file

A plan may send two files to one place, or one file where another one still stands, or a directory
away with files that have moves of their own, and any move may fail.  Whatever happens, each file
there was is there afterwards, with its content, and no file was written over.

One move does one of three things to a tree (`carryOut_cases`).  It fails or is skipped, and then at
most some directories were made for it; or it is applied, and then its target was free when the file
came there.  A commit is a sequence of such steps, so a file goes where the applied moves take it,
one after the other, and nowhere else (`whereabouts`).
-/

namespace Rechristen.MovePlan

open FileTree (Grows relocate)

variable {t : FileTree} {m : Move} {moves : List Move}

/-! ## One move -/

/-- The tree with the directory made to which a move goes. -/
def readied (t : FileTree) (m : Move) : FileTree :=
  (t.makeDirectories m.target.parent).tree

/-- The location of an entry after a move was applied. -/
def displaced (t : FileTree) (m : Move) (place : Location) : Location :=
  match (readied t m).locate m.source, (readied t m).locate m.target with
  | .ok source, .ok target => relocate source target place
  | _, _ => place

/-- A free target of a move whose directory was made stands in that directory. -/
theorem at?_of_made (ht : t.WellFormed)
    (hmade : (t.makeDirectories m.target.parent).obstacle = none) {target : Location}
    (hlocate : (readied t m).locate m.target = .ok target)
    (hfree : (readied t m).at? target = none) :
    (readied t m).at? target.dropLast = some .directory := by
  have hready : (readied t m).WellFormed := (ht.grows_makeDirectories _).wellFormed
  unfold FileTree.locate at hlocate
  split at hlocate
  case h_1 => cases hlocate
  case h_2 hallowed =>
    refine hready.at?_of_follow hlocate (fun hnames => ?_) hfree
    -- Without names the target is the place where its path starts, and that is a directory.
    have hparent : m.target.parent = m.target := by
      rw [Path.parent, hnames, List.dropLast_nil, ← hnames]
    rw [hnames] at hlocate
    obtain rfl := Except.ok.inj hlocate
    have hmaking : t.makeDirectories m.target.parent =
        ⟨if t.isDirectoryAt (t.start m.target) then none else some .blocked, t⟩ := by
      rw [hparent, FileTree.makeDirectories, hallowed, hnames]
      rfl
    rw [hmaking] at hmade
    rw [readied, hmaking] at hfree
    dsimp only at hmade hfree
    split at hmade
    case isTrue hdirectory => simp [FileTree.isDirectoryAt, hfree] at hdirectory
    case isFalse => cases hmade

/-- **One move.**  It fails, or it is skipped because something stands at its target, or it is
applied and takes what stands at its source to its target, which was free. -/
theorem carryOut_cases (ht : t.WellFormed) (m : Move) :
    (∃ trouble, carryOut t m = .failed trouble (readied t m)) ∨
    (t.makeDirectories m.target.parent).obstacle = none ∧
      ((carryOut t m = .skipped (readied t m) ∧
          ∃ entry, (readied t m).look m.target = .ok (some entry)) ∨
        ∃ u, carryOut t m = .applied u ∧ (readied t m).look m.target = .ok none ∧
          (readied t m).move? m.source m.target = some u ∧ u.WellFormed ∧
          u.files = t.files.map fun f => (displaced t m f.1, f.2)) := by
  have hgrows : Grows t (readied t m) := ht.grows_makeDirectories _
  unfold carryOut
  dsimp only
  rw [← readied]
  split
  case h_1 => exact Or.inl ⟨_, rfl⟩
  case h_2 => exact Or.inl ⟨_, rfl⟩
  case h_3 => exact Or.inl ⟨_, rfl⟩
  case h_4 entry hmade hlook => exact Or.inr ⟨hmade, Or.inl ⟨rfl, entry, hlook⟩⟩
  case h_5 hmade hlook =>
    split
    · exact Or.inl ⟨_, rfl⟩
    split
    case h_2 => exact Or.inl ⟨_, rfl⟩
    case h_1 u hmove =>
      obtain ⟨source, target, hsource, htarget, hne, -, hapart, rfl⟩ :=
        FileTree.move?_eq_some hmove
      have hfree : (readied t m).at? target = none := by
        simpa [FileTree.look, htarget] using hlook
      have hupper := at?_of_made ht hmade htarget hfree
      refine Or.inr ⟨hmade, Or.inr ⟨_, rfl, hlook, hmove, ?_, ?_⟩⟩
      · exact hgrows.wellFormed.relocated hne hfree hupper hapart
      · rw [FileTree.files_relocated, hgrows.files]
        simp only [displaced, hsource, htarget]

/-! ## Any number of moves -/

/-- Where an entry goes while moves are carried out: from one applied move to the next. -/
def whereabouts (t : FileTree) : List Move → Location → Location
  | [], place => place
  | m :: rest, place =>
    match carryOut t m with
    | .failed _ _ => place
    | .skipped u => whereabouts u rest place
    | .applied u => whereabouts u rest (displaced t m place)

theorem commitMoves_files (ht : t.WellFormed) (moves : List Move) :
    (commitMoves t moves).tree.WellFormed ∧
      (commitMoves t moves).tree.files =
        t.files.map fun f => (whereabouts t moves f.1, f.2) := by
  induction moves generalizing t with
  | nil => exact ⟨ht, by simp [commitMoves, whereabouts]⟩
  | cons m rest ih =>
      have hgrows : Grows t (readied t m) := ht.grows_makeDirectories _
      simp only [commitMoves, whereabouts]
      rcases carryOut_cases ht m with ⟨trouble, hfailed⟩ | ⟨-, ⟨hskipped, -⟩ |
        ⟨u, happlied, -, -, hu, hfiles⟩⟩
      · rw [hfailed]
        exact ⟨hgrows.wellFormed, by simp [hgrows.files]⟩
      · rw [hskipped]
        obtain ⟨hwell, hlater⟩ := ih hgrows.wellFormed
        exact ⟨hwell, by rw [hlater, hgrows.files]⟩
      · rw [happlied]
        obtain ⟨hwell, hlater⟩ := ih hu
        refine ⟨hwell, ?_⟩
        rw [hlater, hfiles, List.map_map]
        rfl

/-- The moves applied are among the planned ones, in their order. -/
theorem applied_sublist (t : FileTree) (moves : List Move) :
    (commitMoves t moves).report.applied.Sublist moves := by
  induction moves generalizing t with
  | nil => exact List.Sublist.refl []
  | cons m rest ih =>
      simp only [commitMoves]
      split
      case h_1 => exact List.nil_sublist _
      case h_2 u _ => exact (ih u).cons_cons m
      case h_3 u _ => exact (ih u).cons m

theorem skipped_sublist (t : FileTree) (moves : List Move) :
    (commitMoves t moves).report.skipped.Sublist moves := by
  induction moves generalizing t with
  | nil => exact List.Sublist.refl []
  | cons m rest ih =>
      simp only [commitMoves]
      split
      case h_1 => exact List.nil_sublist _
      case h_2 u _ => exact (ih u).cons m
      case h_3 u _ => exact (ih u).cons_cons m

/-- If no move fails, each of them is either applied or skipped. -/
theorem applied_append_skipped (hok : (commitMoves t moves).trouble = none) :
    ((commitMoves t moves).report.applied ++ (commitMoves t moves).report.skipped).Perm moves := by
  induction moves generalizing t with
  | nil => exact List.Perm.refl []
  | cons m rest ih =>
      simp only [commitMoves] at hok ⊢
      split at hok
      case h_1 => cases hok
      case h_2 => exact (ih hok).cons m
      case h_3 => exact List.perm_middle.trans ((ih hok).cons m)

/-- By induction on the moves before it: when an applied move is reached, its target is free. -/
theorem free_of_applied {before after : List Move} (ht : t.WellFormed)
    (hnodup : (before ++ m :: after).Nodup)
    (happlied : m ∈ (commitMoves t (before ++ m :: after)).report.applied) :
    (readied (commitMoves t before).tree m).look m.target = .ok none := by
  induction before generalizing t with
  | nil =>
      simp only [List.nil_append, commitMoves] at happlied
      rcases carryOut_cases ht m with ⟨trouble, hfailed⟩ | ⟨-, ⟨hskipped, -⟩ | ⟨u, -, hlook, -⟩⟩
      · rw [hfailed] at happlied
        cases happlied
      · rw [hskipped] at happlied
        have hlater : m ∈ after := (applied_sublist _ after).subset happlied
        exact absurd hlater (List.nodup_cons.1 hnodup).1
      · exact hlook
  | cons first rest ih =>
      rw [List.cons_append] at hnodup happlied
      obtain ⟨hfresh, hrest⟩ := List.nodup_cons.1 hnodup
      have hne : m ≠ first := by
        rintro rfl
        exact hfresh (by simp)
      simp only [commitMoves] at happlied ⊢
      rcases carryOut_cases ht first with ⟨trouble, hfailed⟩ | ⟨-, ⟨hskipped, -⟩ |
        ⟨u, hmoved, -, -, hu, -⟩⟩
      · rw [hfailed] at happlied
        cases happlied
      · rw [hskipped] at happlied ⊢
        exact ih (ht.grows_makeDirectories _).wellFormed hrest happlied
      · rw [hmoved] at happlied ⊢
        exact ih hu hrest ((List.mem_cons.1 happlied).resolve_left hne)

/-- **Nothing is lost.**  Carry a plan out, whether or not a move fails.  The contents of the files
are the same, each as often as before.  Every file is found, with its content, where the applied
moves took it, no two files came to one place, and there is no other file.  The plan is empty.  If
no move fails, each planned move is either applied or skipped, in the order of the plan, and at the
target of an applied move there was nothing when it was reached. -/
theorem commit_conserves (ht : t.WellFormed) {p : MovePlan} (hp : p.WellFormed) :
    (p.commit t).1.tree.WellFormed ∧
    (p.commit t).1.tree.contents.Perm t.contents ∧
    (∀ place content, (p.commit t).1.tree.at? place = some (.file content) ↔
      ∃ origin, t.at? origin = some (.file content) ∧ whereabouts t p.moves origin = place) ∧
    (∀ a b contentA contentB, t.at? a = some (.file contentA) → t.at? b = some (.file contentB) →
      whereabouts t p.moves a = whereabouts t p.moves b → a = b) ∧
    (p.commit t).2 = {} ∧
    ((p.commit t).1.trouble = none →
      (p.commit t).1.report.applied.Sublist p.moves ∧
      (p.commit t).1.report.skipped.Sublist p.moves ∧
      ((p.commit t).1.report.applied ++ (p.commit t).1.report.skipped).Perm p.moves ∧
      ∀ before m after, p.moves = before ++ m :: after → m ∈ (p.commit t).1.report.applied →
        (readied (commitMoves t before).tree m).look m.target = .ok none) := by
  obtain ⟨hwell, hfiles⟩ := commitMoves_files ht p.moves
  have hnodup : p.moves.Nodup := List.Nodup.of_map Move.source hp
  have hcommit : (p.commit t).1 = commitMoves t p.moves := rfl
  rw [hcommit]
  refine ⟨hwell, ?_, fun place content => ht.at?_displaced hwell hfiles,
    fun a b contentA contentB => ht.displaced_inj hwell hfiles, rfl, fun hok => ?_⟩
  · have hcontents : (commitMoves t p.moves).tree.contents = t.contents := by
      rw [FileTree.contents_eq, FileTree.contents_eq, hfiles, List.map_map]
      rfl
    rw [hcontents]
  · refine ⟨applied_sublist t p.moves, skipped_sublist t p.moves, applied_append_skipped hok, ?_⟩
    intro before m after hsplit happlied
    rw [hsplit] at hnodup happlied
    exact free_of_applied ht hnodup happlied

/-! ### A chain of moves that meets a taken place twice -/

/-- Three files, and a directory with a fourth. -/
def crowdedTree : FileTree where
  home := ["proj"]
  entries :=
    [(["proj"], .directory), (["proj", "A.php"], .file [65]), (["proj", "B.php"], .file [66]),
      (["proj", "C.php"], .file [67]), (["proj", "d"], .directory),
      (["proj", "d", "E.php"], .file [69])]

/-- The first file is to go where the second still stands.  The second and the third have one
target, in a directory that is not there, and the directory moves below that one. -/
def crowdedPlan : MovePlan where
  moves :=
    [⟨⟨"", ["A.php"]⟩, ⟨"", ["B.php"]⟩⟩, ⟨⟨"", ["B.php"]⟩, ⟨"", ["new", "B.php"]⟩⟩,
      ⟨⟨"", ["d"]⟩, ⟨"", ["new", "d"]⟩⟩, ⟨⟨"/", ["proj", "C.php"]⟩, ⟨"", ["new", "B.php"]⟩⟩]

theorem commit_conserves_crowded :
    crowdedTree.WellFormed ∧ crowdedPlan.WellFormed ∧
    (crowdedPlan.commit crowdedTree).1.tree.contents.Perm [[65], [66], [67], [69]] ∧
    (crowdedPlan.commit crowdedTree).1.tree.at? ["proj", "new", "B.php"] = some (.file [66]) ∧
    (crowdedPlan.commit crowdedTree).1.tree.at? ["proj", "new", "d", "E.php"] = some (.file [69]) ∧
    (crowdedPlan.commit crowdedTree).1.trouble = none ∧
    (crowdedPlan.commit crowdedTree).1.report.skipped =
      [⟨⟨"", ["A.php"]⟩, ⟨"", ["B.php"]⟩⟩, ⟨⟨"/", ["proj", "C.php"]⟩, ⟨"", ["new", "B.php"]⟩⟩] := by
  have htree : crowdedTree.WellFormed := by decide +kernel
  have hplan : crowdedPlan.WellFormed := by decide +kernel
  obtain ⟨-, hcontents, hat, -⟩ := commit_conserves htree hplan
  refine ⟨htree, hplan, hcontents, (hat _ _).2 ⟨["proj", "B.php"], ?_, ?_⟩,
    (hat _ _).2 ⟨["proj", "d", "E.php"], ?_, ?_⟩, ?_, ?_⟩ <;> decide +kernel

end Rechristen.MovePlan
