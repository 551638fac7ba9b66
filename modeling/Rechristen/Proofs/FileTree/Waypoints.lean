import Rechristen.Proofs.FileTree.Moves

/-!
# The way along a path

There are no links, so where a path leads is known before anything on the way is there
(`endpoint`), and so are the places it leads through (`waypoints`).  Whether it does lead there
depends on its being led through directories only.

Directories are made on the way of a path and nowhere else (`adds_makeDirectories`).  Making them
once more changes nothing and has the same outcome, also where it failed in the middle
(`makeDirectories_again`).
-/

namespace Rechristen.FileTree

variable {t u v : FileTree} {place target start : Location} {name : String}
  {names rest : List String} {p : Path}

/-- Where a name leads from a directory. -/
def advance (place : Location) (name : String) : Location :=
  if name = ".." then place.dropLast else if name = "." then place else place ++ [name]

/-- The places that names lead through, and the one they lead to. -/
def trail (place : Location) : List String → List Location
  | [] => [place]
  | name :: rest => place :: trail (advance place name) rest

/-- Where a path leads if its directories are there. -/
def endpoint (t : FileTree) (p : Path) : Location :=
  p.names.foldl advance (t.start p)

/-- The places a path leads through, and the one it leads to. -/
def waypoints (t : FileTree) (p : Path) : List Location :=
  trail (t.start p) p.names

theorem start_congr (hhome : u.home = t.home) (p : Path) : u.start p = t.start p := by
  rw [start, start, hhome]

theorem endpoint_congr (hhome : u.home = t.home) (p : Path) : u.endpoint p = t.endpoint p := by
  rw [endpoint, endpoint, start_congr hhome]

theorem waypoints_congr (hhome : u.home = t.home) (p : Path) : u.waypoints p = t.waypoints p := by
  rw [waypoints, waypoints, start_congr hhome]

theorem start_mem_trail (start : Location) (names : List String) : start ∈ trail start names := by
  cases names <;> simp [trail]

theorem trail_subset (start : Location) (names rest : List String) :
    trail start names ⊆ trail start (names ++ rest) := by
  induction names generalizing start with
  | nil => simpa [trail] using start_mem_trail start rest
  | cons name names ih => exact List.cons_subset_cons _ (ih _)

theorem waypoints_parent_subset (t : FileTree) (p : Path) :
    t.waypoints p.parent ⊆ t.waypoints p := by
  by_cases hnames : p.names = []
  · rw [waypoints, waypoints, Path.parent, hnames]
    exact List.Subset.refl _
  · have hsplit := List.dropLast_append_getLast hnames
    rw [waypoints, waypoints, ← hsplit]
    exact trail_subset _ _ _

theorem foldl_mem_trail (start : Location) (names : List String) :
    names.foldl advance start ∈ trail start names := by
  induction names generalizing start with
  | nil => simp [trail]
  | cons name names ih => exact List.mem_cons_of_mem _ (ih _)

theorem endpoint_mem_waypoints (t : FileTree) (p : Path) : t.endpoint p ∈ t.waypoints p :=
  foldl_mem_trail _ _

/-! ## Following names -/

/-- A step: the place that is left is a directory, and the name is not too long. -/
theorem follow_cons_eq_ok :
    t.follow place (name :: rest) = .ok target ↔
      t.at? place = some .directory ∧ name.utf8ByteSize ≤ longestName ∧
        t.follow (advance place name) rest = .ok target := by
  rw [follow]
  split
  case h_1 hnone => simp [hnone]
  case h_2 content hfile => simp [hfile]
  case h_3 hdirectory =>
    rw [← advance]
    split
    case isTrue hlong => simp [Nat.not_le.2 hlong]
    case isFalse hshort => simp [hdirectory, Nat.not_lt.1 hshort]

theorem eq_foldl_of_follow (hfollow : t.follow start names = .ok target) :
    target = names.foldl advance start := by
  induction names generalizing start with
  | nil => exact (Except.ok.inj hfollow).symm
  | cons name names ih => exact ih (follow_cons_eq_ok.1 hfollow).2.2

theorem eq_endpoint_of_locate (hlocate : t.locate p = .ok target) : target = t.endpoint p := by
  unfold locate at hlocate
  split at hlocate
  · cases hlocate
  · exact eq_foldl_of_follow hlocate

/-- A way stays open as long as its directories are there. -/
theorem follow_of_kept (hfollow : t.follow start names = .ok target)
    (hkept : ∀ q ∈ trail start names, t.at? q = some .directory → u.at? q = some .directory) :
    u.follow start names = .ok target := by
  induction names generalizing start with
  | nil => exact hfollow
  | cons name names ih =>
      obtain ⟨hdirectory, hshort, hrest⟩ := follow_cons_eq_ok.1 hfollow
      refine follow_cons_eq_ok.2 ⟨hkept _ (start_mem_trail _ _) hdirectory, hshort, ?_⟩
      exact ih hrest fun q hq => hkept q (List.mem_cons_of_mem _ hq)

theorem locate_of_kept (hlocate : t.locate p = .ok target) (hhome : u.home = t.home)
    (hkept : ∀ q ∈ t.waypoints p, t.at? q = some .directory → u.at? q = some .directory) :
    u.locate p = .ok target := by
  unfold locate at hlocate ⊢
  rw [start_congr hhome]
  split at hlocate
  · cases hlocate
  · exact follow_of_kept hlocate hkept

theorem follow_append (t : FileTree) (start : Location) (names rest : List String) :
    t.follow start (names ++ rest) = (t.follow start names).bind (t.follow · rest) := by
  induction names generalizing start with
  | nil => rfl
  | cons name names ih =>
      rw [List.cons_append, follow, follow]
      split
      · rfl
      · rfl
      · split
        · rfl
        · exact ih _

/-- Names lead to a directory. -/
def LeadsToDirectory (t : FileTree) (start : Location) (names : List String) : Prop :=
  ∃ place, t.follow start names = .ok place ∧ t.at? place = some .directory

theorem LeadsToDirectory.of_kept (hleads : t.LeadsToDirectory start names)
    (hkept : ∀ q ∈ trail start names, t.at? q = some .directory → u.at? q = some .directory) :
    u.LeadsToDirectory start names := by
  obtain ⟨place, hfollow, hdirectory⟩ := hleads
  refine ⟨place, follow_of_kept hfollow hkept, hkept place ?_ hdirectory⟩
  rw [eq_foldl_of_follow hfollow]
  exact foldl_mem_trail _ _

/-! ## Where directories are made -/

/-- `u` is `t` with directories at some of the places given, where nothing was. -/
structure Adds (places : List Location) (t u : FileTree) : Prop where
  home : u.home = t.home
  found : ∀ q, u.at? q = t.at? q ∨ q ∈ places ∧ t.at? q = none ∧ u.at? q = some .directory

namespace Adds

variable {places more : List Location}

theorem refl (places : List Location) (t : FileTree) : Adds places t t :=
  ⟨rfl, fun _ => Or.inl rfl⟩

theorem trans (htu : Adds places t u) (huv : Adds places u v) : Adds places t v := by
  refine ⟨huv.home.trans htu.home, fun q => ?_⟩
  rcases huv.found q with hsame | ⟨hmem, hfree, hmade⟩
  · rw [hsame]
    exact htu.found q
  · rcases htu.found q with hsame | ⟨-, -, hearlier⟩
    · exact Or.inr ⟨hmem, hsame.symm.trans hfree, hmade⟩
    · rw [hearlier] at hfree
      cases hfree

theorem mono (htu : Adds places t u) (hsubset : places ⊆ more) : Adds more t u :=
  ⟨htu.home, fun q => (htu.found q).imp_right fun h => ⟨hsubset h.1, h.2⟩⟩

theorem kept (htu : Adds places t u) {q : Location} {entry : Entry} (hq : t.at? q = some entry) :
    u.at? q = some entry := by
  rcases htu.found q with hsame | ⟨-, hfree, -⟩
  · rw [hsame, hq]
  · rw [hfree] at hq
    cases hq

end Adds

/-- Make the directory that names lead to, if they lead anywhere. -/
def makeLast (t : FileTree) (start : Location) (names : List String) : Making :=
  match t.follow start names with
  | .ok place => t.makeDirectoryAt place
  | .error obstacle => ⟨some obstacle, t⟩

/-- If nothing is missing on the way, there is one directory to make. -/
theorem makeDirectoriesUp_of_open {above : List String}
    (hopen : t.follow start (name :: above).reverse ≠ .error .missing) :
    t.makeDirectoriesUp start (name :: above) = t.makeLast start (name :: above).reverse := by
  rw [makeDirectoriesUp, makeLast]
  split
  case h_1 place hplace => rw [hplace]
  case h_2 hmissing => exact absurd hmissing hopen
  case h_3 obstacle _ hobstacle => rw [hobstacle]

/-- If something is missing on the way, the directories above come first. -/
theorem makeDirectoriesUp_of_missing {above : List String}
    (hmissing : t.follow start (name :: above).reverse = .error .missing) :
    t.makeDirectoriesUp start (name :: above) =
      if (t.makeDirectoriesUp start above).made then
        (t.makeDirectoriesUp start above).tree.makeLast start (name :: above).reverse
      else t.makeDirectoriesUp start above := by
  simp only [makeDirectoriesUp, hmissing]
  rfl

theorem adds_makeLast (t : FileTree) (start : Location) (names : List String) :
    Adds (trail start names) t (t.makeLast start names).tree := by
  unfold makeLast
  split
  case h_2 => exact Adds.refl _ _
  case h_1 place hfollow =>
    unfold makeDirectoryAt
    split
    case h_1 => exact Adds.refl _ _
    case h_2 => exact Adds.refl _ _
    case h_3 hfree =>
      have hplace : place ∈ trail start names := by
        rw [eq_foldl_of_follow hfollow]
        exact foldl_mem_trail _ _
      refine ⟨by rw [put_of_free hfree], fun q => ?_⟩
      rw [at?_put hfree]
      split
      case isTrue hq => exact Or.inr ⟨hq ▸ hplace, hq ▸ hfree, rfl⟩
      case isFalse => exact Or.inl rfl

/-- By induction on the names, which are given from the last to the first. -/
theorem adds_makeDirectoriesUp (t : FileTree) (start : Location) (names : List String) :
    Adds (trail start names.reverse) t (t.makeDirectoriesUp start names).tree := by
  induction names with
  | nil => exact Adds.refl _ _
  | cons name above ih =>
      by_cases hmissing : t.follow start (name :: above).reverse = .error .missing
      · have hupper : Adds (trail start (name :: above).reverse) t
            (t.makeDirectoriesUp start above).tree := by
          rw [List.reverse_cons]
          exact ih.mono (trail_subset _ _ _)
        rw [makeDirectoriesUp_of_missing hmissing]
        split
        · exact hupper.trans (adds_makeLast _ _ _)
        · exact hupper
      · rw [makeDirectoriesUp_of_open hmissing]
        exact adds_makeLast _ _ _

theorem adds_makeDirectories (t : FileTree) (p : Path) :
    Adds (t.waypoints p) t (t.makeDirectories p).tree := by
  unfold makeDirectories
  split
  · exact Adds.refl _ _
  · have hadds := adds_makeDirectoriesUp t (t.start p) p.names.reverse
    rwa [List.reverse_reverse] at hadds

/-! ## Making directories once more -/

/-- Nothing is made where there is a directory. -/
theorem makeDirectoriesUp_of_leads (hleads : t.LeadsToDirectory start names.reverse) :
    t.makeDirectoriesUp start names = ⟨none, t⟩ := by
  obtain ⟨place, hfollow, hdirectory⟩ := hleads
  cases names with
  | nil =>
      obtain rfl := Except.ok.inj hfollow
      rw [makeDirectoriesUp, isDirectoryAt, hdirectory]
      rfl
  | cons name above => simp only [makeDirectoriesUp, hfollow, makeDirectoryAt, hdirectory]

theorem leads_of_makeLast (hmade : (t.makeLast start names).obstacle = none) :
    (t.makeLast start names).tree.LeadsToDirectory start names := by
  unfold makeLast at hmade ⊢
  split at hmade
  case h_2 => cases hmade
  case h_1 place hfollow =>
    unfold makeDirectoryAt at hmade ⊢
    split at hmade
    case h_1 hdirectory => exact ⟨place, hfollow, hdirectory⟩
    case h_2 => cases hmade
    case h_3 hfree =>
      have hkept : ∀ q, t.at? q = some .directory →
          (t.put place .directory).at? q = some .directory := by
        intro q hq
        rw [at?_put hfree, hq, ite_self]
      exact ⟨place, follow_of_kept hfollow fun q _ => hkept q, by rw [at?_put hfree, if_pos rfl]⟩

/-- A directory that was made is there, and so is the way to it. -/
theorem leads_of_makeDirectoriesUp (hmade : (t.makeDirectoriesUp start names).obstacle = none) :
    (t.makeDirectoriesUp start names).tree.LeadsToDirectory start names.reverse := by
  cases names with
  | nil =>
      rw [makeDirectoriesUp] at hmade ⊢
      dsimp only at hmade ⊢
      split at hmade
      case isFalse => cases hmade
      case isTrue hdirectory =>
        refine ⟨start, rfl, ?_⟩
        rw [isDirectoryAt, Option.any_eq_true] at hdirectory
        obtain ⟨entry, hentry, hkind⟩ := hdirectory
        cases entry with
        | directory => exact hentry
        | file content => cases hkind
  | cons name above =>
      by_cases hmissing : t.follow start (name :: above).reverse = .error .missing
      · rw [makeDirectoriesUp_of_missing hmissing] at hmade ⊢
        split at hmade
        case isTrue hupper =>
          rw [if_pos hupper]
          exact leads_of_makeLast hmade
        case isFalse hupper =>
          rw [Making.made, hmade] at hupper
          exact absurd rfl hupper
      · rw [makeDirectoriesUp_of_open hmissing] at hmade ⊢
        exact leads_of_makeLast hmade

theorem makeDirectories_of_leads (hallowed : refused? p = none)
    (hleads : t.LeadsToDirectory (t.start p) p.names) : t.makeDirectories p = ⟨none, t⟩ := by
  simp only [makeDirectories, hallowed]
  refine makeDirectoriesUp_of_leads ?_
  rwa [List.reverse_reverse]

theorem leads_of_makeDirectories (hmade : (t.makeDirectories p).obstacle = none) :
    refused? p = none ∧ (t.makeDirectories p).tree.LeadsToDirectory (t.start p) p.names := by
  unfold makeDirectories at hmade ⊢
  split at hmade
  case h_1 => cases hmade
  case h_2 hallowed =>
    have hleads := leads_of_makeDirectoriesUp hmade
    rw [List.reverse_reverse] at hleads
    exact ⟨hallowed, hleads⟩

section Obstacle

variable {obstacle : Obstacle}

theorem makeLast_of_obstacle (hobstacle : (t.makeLast start names).obstacle = some obstacle) :
    t.makeLast start names = ⟨some obstacle, t⟩ := by
  unfold makeLast at hobstacle ⊢
  split at hobstacle
  case h_2 => rw [← hobstacle]
  case h_1 place hfollow =>
    unfold makeDirectoryAt at hobstacle ⊢
    split at hobstacle
    case h_1 => cases hobstacle
    case h_2 => rw [← hobstacle]
    case h_3 => cases hobstacle

/-- What stands in the way of a directory stands in the way of all below it. -/
theorem makeDirectoriesUp_cons_of_obstacle
    (hupper : t.makeDirectoriesUp start names = ⟨some obstacle, t⟩) (name : String) :
    t.makeDirectoriesUp start (name :: names) = ⟨some obstacle, t⟩ := by
  by_cases hmissing : t.follow start (name :: names).reverse = .error .missing
  · rw [makeDirectoriesUp_of_missing hmissing, hupper]
    rfl
  · rw [makeDirectoriesUp_of_open hmissing, ← hupper]
    have hway : t.follow start (name :: names).reverse =
        (t.follow start names.reverse).bind (t.follow · [name]) := by
      rw [List.reverse_cons, follow_append]
    rw [hway] at hmissing
    rw [makeLast, hway]
    cases hfollow : t.follow start names.reverse with
    | error found =>
        -- Nothing is missing, so the same is found on the longer way.
        rw [hfollow, Except.bind] at hmissing
        cases names with
        | nil => cases hfollow
        | cons last above =>
            rw [makeDirectoriesUp_of_open (by rwa [hfollow]), makeLast, hfollow]
            rfl
    | ok place =>
        rw [hfollow, Except.bind, follow] at hmissing
        simp only [Except.bind, follow]
        cases hat : t.at? place with
        | none => exact absurd (by rw [hat]) hmissing
        | some entry =>
            cases entry with
            | directory =>
                -- A directory that is there is no obstacle.
                rw [makeDirectoriesUp_of_leads ⟨place, hfollow, hat⟩] at hupper
                cases hupper
            | file content =>
                cases names with
                | nil =>
                    obtain rfl := Except.ok.inj hfollow
                    rw [makeDirectoriesUp, isDirectoryAt, hat]
                    rfl
                | cons last above => simp only [makeDirectoriesUp, hfollow, makeDirectoryAt, hat]

end Obstacle

/-- **Once more.**  By induction on the names, from the last to the first.  Where all directories
were made they are there.  Where one could not be made, the same stands in the way. -/
theorem makeDirectoriesUp_again (t : FileTree) (start : Location) (names : List String) :
    (t.makeDirectoriesUp start names).tree.makeDirectoriesUp start names =
      t.makeDirectoriesUp start names := by
  induction names with
  | nil => rfl
  | cons name above ih =>
      cases hobstacle : (t.makeDirectoriesUp start (name :: above)).obstacle with
      | none =>
          rw [makeDirectoriesUp_of_leads (leads_of_makeDirectoriesUp hobstacle), ← hobstacle]
      | some obstacle =>
          by_cases hmissing : t.follow start (name :: above).reverse = .error .missing
          · rw [makeDirectoriesUp_of_missing hmissing] at hobstacle ⊢
            generalize t.makeDirectoriesUp start above = upper at ih hobstacle
            by_cases hmade : upper.made = true
            · -- The directories above were made, and the last one could not be.
              rw [if_pos hmade] at hobstacle ⊢
              have hleft := makeLast_of_obstacle hobstacle
              rw [hleft]
              by_cases hlater : upper.tree.follow start (name :: above).reverse = .error .missing
              · rw [makeDirectoriesUp_of_missing hlater, ih, if_pos hmade, hleft]
              · rw [makeDirectoriesUp_of_open hlater, hleft]
            · -- One of the directories above could not be made.
              rw [if_neg hmade] at hobstacle ⊢
              have hleft : upper = ⟨some obstacle, upper.tree⟩ := by rw [← hobstacle]
              exact (makeDirectoriesUp_cons_of_obstacle (ih.trans hleft) name).trans hleft.symm
          · have hleft := makeDirectoriesUp_of_open hmissing
            rw [hleft] at hobstacle
            rw [hleft, makeLast_of_obstacle hobstacle, hleft, makeLast_of_obstacle hobstacle]

theorem makeDirectories_again (t : FileTree) (p : Path) :
    (t.makeDirectories p).tree.makeDirectories p = t.makeDirectories p := by
  have hstart : (t.makeDirectories p).tree.start p = t.start p :=
    start_congr (adds_makeDirectories t p).home p
  unfold makeDirectories at hstart ⊢
  cases hrefused : refused? p with
  | some obstacle => rfl
  | none =>
      simp only [hrefused] at hstart ⊢
      rw [hstart]
      exact makeDirectoriesUp_again _ _ _

end Rechristen.FileTree
