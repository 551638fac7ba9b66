import Mathlib.Data.List.Induction
import Rechristen.FileTree
import Rechristen.Proofs.Keyed

/-!
# Trees of files stay trees

A file tree is kept as a list of entries with their locations, and not every such list is a tree.
It is one (`WellFormed`) if no two entries stand at one location, none stands at the root and each
stands in a directory.  Then an entry that is not there has nothing below it either
(`WellFormed.not_within_of_free`), which is why a move to a free location cannot run into entries
that are there.

Two things are done to a tree before its files are in their places:

* directories are made.  The tree grows, and its files stay (`Grows`);
* everything at one location moves to another, free one.  Each file goes where `relocate` takes it,
  with its content, and no two files come to one location (`WellFormed.relocated`).
-/

namespace Rechristen.FileTree

variable {t u v : FileTree} {place source target : Location} {entry : Entry}

/-- The entries make a tree. -/
structure WellFormed (t : FileTree) : Prop where
  nodup : (t.entries.map Prod.fst).Nodup
  below : ∀ e ∈ t.entries, e.1 ≠ []
  upheld : ∀ e ∈ t.entries, t.at? e.1.dropLast = some .directory

instance (t : FileTree) : Decidable t.WellFormed :=
  decidable_of_iff ((t.entries.map Prod.fst).Nodup ∧ (∀ e ∈ t.entries, e.1 ≠ []) ∧
      ∀ e ∈ t.entries, t.at? e.1.dropLast = some .directory)
    ⟨fun h => ⟨h.1, h.2.1, h.2.2⟩, fun h => ⟨h.nodup, h.below, h.upheld⟩⟩

/-- The files with their locations. -/
def files (t : FileTree) : List (Location × Bytes) :=
  t.entries.filterMap fun e => e.2.content?.map fun content => (e.1, content)

theorem contents_eq (t : FileTree) : t.contents = t.files.map Prod.snd := by
  simp only [contents, files, List.map_filterMap, Option.map_map]
  congr 1
  funext e
  cases e.2.content? <;> rfl

/-! ## What stands at a location -/

theorem at?_eq_none_iff :
    t.at? place = none ↔ place ≠ [] ∧ ∀ e ∈ t.entries, e.1 ≠ place := by
  unfold at?
  cases place with
  | nil => simp
  | cons name rest =>
      simp only [List.isEmpty_cons, Bool.false_eq_true, if_false, List.lookup_eq_none_iff]
      grind

theorem mem_of_at? (hplace : place ≠ []) (hfound : t.at? place = some entry) :
    (place, entry) ∈ t.entries := by
  cases place with
  | nil => exact absurd rfl hplace
  | cons name rest =>
      have hlookup : t.entries.lookup (name :: rest) = some entry := hfound
      obtain ⟨before, after, hsplit, -⟩ := List.lookup_eq_some_iff.1 hlookup
      rw [hsplit]
      simp

/-- Where locations are told apart, every entry is found. -/
theorem at?_of_nodup (hnodup : (t.entries.map Prod.fst).Nodup) (hplace : place ≠ [])
    (hmem : (place, entry) ∈ t.entries) : t.at? place = some entry := by
  obtain ⟨before, after, hsplit⟩ := List.append_of_mem hmem
  rw [hsplit, List.map_append, List.map_cons] at hnodup
  have hfirst : ∀ e ∈ before, e.1 ≠ place := by
    intro e he heq
    exact (List.nodup_append.1 hnodup).2.2 e.1 (List.mem_map_of_mem he) place (by simp) heq
  unfold at?
  rw [if_neg (by simpa using hplace)]
  refine List.lookup_eq_some_iff.2 ⟨before, after, hsplit, fun e he => ?_⟩
  simpa using Ne.symm (hfirst e he)

namespace WellFormed

theorem at?_of_mem (ht : t.WellFormed) (hmem : (place, entry) ∈ t.entries) :
    t.at? place = some entry :=
  at?_of_nodup ht.nodup (ht.below _ hmem) hmem

theorem mem_files_iff (ht : t.WellFormed) {content : Bytes} :
    (place, content) ∈ t.files ↔ t.at? place = some (.file content) := by
  have hfile : (place, content) ∈ t.files ↔ (place, Entry.file content) ∈ t.entries := by
    simp only [files, List.mem_filterMap, Option.map_eq_some_iff, Prod.mk.injEq]
    constructor
    · rintro ⟨⟨location, found⟩, he, bytes, hcontent, rfl, rfl⟩
      cases found with
      | directory => simp [Entry.content?] at hcontent
      | file bytes' =>
          obtain rfl : bytes' = bytes := by simpa [Entry.content?] using hcontent
          exact he
    · intro hmem
      exact ⟨_, hmem, content, rfl, rfl, rfl⟩
  rw [hfile]
  refine ⟨ht.at?_of_mem, fun hfound => mem_of_at? ?_ hfound⟩
  rintro rfl
  simp [at?] at hfound

theorem nodup_files (ht : t.WellFormed) : t.files.Nodup := by
  refine List.Nodup.filterMap ?_ (List.Nodup.of_map Prod.fst ht.nodup)
  rintro ⟨a, x⟩ ⟨b, y⟩ f ha hb
  cases x <;> cases y <;> simp [Entry.content?] at ha hb
  obtain ⟨rfl, rfl⟩ := Prod.mk.inj (ha.trans hb.symm)
  rfl

section Displaced

variable {goes : Location → Location} (ht : t.WellFormed) (hu : u.WellFormed)
  (hfiles : u.files = t.files.map fun f => (goes f.1, f.2))

include ht hu hfiles

/-- If the files of `t` went to other locations, they are what is found there. -/
theorem at?_displaced {content : Bytes} :
    u.at? place = some (.file content) ↔
      ∃ origin, t.at? origin = some (.file content) ∧ goes origin = place := by
  rw [← hu.mem_files_iff, hfiles, List.mem_map]
  constructor
  · rintro ⟨f, hf, hfile⟩
    obtain ⟨rfl, rfl⟩ := Prod.mk.inj hfile
    exact ⟨f.1, ht.mem_files_iff.1 hf, rfl⟩
  · rintro ⟨origin, horigin, rfl⟩
    exact ⟨(origin, content), ht.mem_files_iff.2 horigin, rfl⟩

/-- No two files went to one location. -/
theorem displaced_inj {a b : Location} {contentA contentB : Bytes}
    (ha : t.at? a = some (.file contentA)) (hb : t.at? b = some (.file contentB))
    (hsame : goes a = goes b) : a = b := by
  have hA := (ht.at?_displaced hu hfiles).2 ⟨a, ha, rfl⟩
  have hB := (ht.at?_displaced hu hfiles).2 ⟨b, hb, rfl⟩
  obtain rfl : contentA = contentB := by
    rw [hsame, hB] at hA
    exact (Entry.file.inj (Option.some.inj hA)).symm
  have hnodup := hu.nodup_files
  rw [hfiles] at hnodup
  have hpair : (a, contentA) = (b, contentA) :=
    List.inj_on_of_nodup_map hnodup (ht.mem_files_iff.2 ha) (ht.mem_files_iff.2 hb)
      (by rw [hsame])
  exact (Prod.mk.inj hpair).1

end Displaced

theorem at?_dropLast (ht : t.WellFormed) (hfound : t.at? place = some entry) :
    t.at? place.dropLast = some .directory := by
  by_cases hplace : place = []
  · subst hplace
    rfl
  · exact ht.upheld _ (mem_of_at? hplace hfound)

/-- What lies above an entry is a directory. -/
theorem at?_of_above (ht : t.WellFormed) {above : Location} (habove : above <+: place)
    (hne : above ≠ place) (hfound : t.at? place = some entry) : t.at? above = some .directory := by
  obtain ⟨rest, rfl⟩ := habove
  induction rest using List.reverseRecOn generalizing entry with
  | nil => simp at hne
  | append_singleton rest name ih =>
      have hupper : t.at? (above ++ rest) = some .directory := by
        have hdrop := ht.at?_dropLast hfound
        rwa [← List.append_assoc, List.dropLast_concat] at hdrop
      by_cases hrest : rest = []
      · simpa [hrest] using hupper
      · exact ih (by simpa using hrest) hupper

/-- Nothing is below a location at which nothing is. -/
theorem not_within_of_free (ht : t.WellFormed) (hfree : t.at? place = none)
    {e : Location × Entry} (he : e ∈ t.entries) : ¬ place <+: e.1 := by
  intro hwithin
  have hne : place ≠ e.1 := fun heq => (at?_eq_none_iff.1 hfree).2 e he heq.symm
  have hdirectory := ht.at?_of_above hwithin hne (ht.at?_of_mem he)
  rw [hfree] at hdirectory
  cases hdirectory

/-- By induction on the names: every place that is left is a directory, so names that lead to a free
location lead to a directory before the last of them. -/
theorem at?_of_follow (ht : t.WellFormed) {start : Location} {names : List String}
    (hfollow : t.follow start names = .ok target) (hnames : names ≠ [])
    (hfree : t.at? target = none) : t.at? target.dropLast = some .directory := by
  induction names generalizing start with
  | nil => exact absurd rfl hnames
  | cons name rest ih =>
      rw [follow] at hfollow
      split at hfollow
      case h_1 => cases hfollow
      case h_2 => cases hfollow
      case h_3 hstart =>
        split at hfollow
        · cases hfollow
        by_cases hrest : rest = []
        · subst hrest
          obtain rfl := Except.ok.inj hfollow
          -- Up, on the spot or down: only the way down can lead to a free location.
          split at hfree
          · rw [ht.at?_dropLast hstart] at hfree
            cases hfree
          split at hfree
          · rw [hstart] at hfree
            cases hfree
          rename_i hup hstay
          rwa [if_neg hup, if_neg hstay, List.dropLast_concat]
        · exact ih hfollow hrest

end WellFormed

/-! ## Making directories -/

/-- `u` is `t` with some more directories. -/
structure Grows (t u : FileTree) : Prop where
  wellFormed : u.WellFormed
  home : u.home = t.home
  files : u.files = t.files

theorem Grows.refl (ht : t.WellFormed) : Grows t t :=
  ⟨ht, rfl, rfl⟩

theorem Grows.trans (htu : Grows t u) (huv : Grows u v) : Grows t v :=
  ⟨huv.wellFormed, huv.home.trans htu.home, huv.files.trans htu.files⟩

theorem put_of_free (hfree : t.at? place = none) (entry : Entry) :
    t.put place entry = { t with entries := t.entries ++ [(place, entry)] } := by
  have hlookup : t.entries.lookup place = none := by
    refine List.lookup_eq_none_iff.2 fun e he => ?_
    simpa using Ne.symm ((at?_eq_none_iff.1 hfree).2 e he)
  simp [put, hlookup]

theorem at?_put (hfree : t.at? place = none) (entry : Entry) (q : Location) :
    (t.put place entry).at? q = if q = place then some entry else t.at? q := by
  have hplace : place ≠ [] := (at?_eq_none_iff.1 hfree).1
  rw [put_of_free hfree]
  unfold at? at hfree ⊢
  rw [if_neg (by simpa using hplace)] at hfree
  by_cases hq : q = place
  · subst hq
    simp [hplace, List.lookup_append, hfree]
  · have hother : (q == place) = false := by simpa using hq
    simp [hq, List.lookup_append, List.lookup_cons, hother]

namespace WellFormed

theorem grows_put (ht : t.WellFormed) (hfree : t.at? place = none)
    (hupper : t.at? place.dropLast = some .directory) : Grows t (t.put place .directory) := by
  obtain ⟨hplace, hother⟩ := at?_eq_none_iff.1 hfree
  have hput := put_of_free hfree .directory
  have hkept : ∀ {q : Location} {x : Entry}, t.at? q = some x →
      (t.put place .directory).at? q = some x := by
    intro q x hq
    rw [at?_put hfree, if_neg, hq]
    rintro rfl
    rw [hfree] at hq
    cases hq
  refine ⟨⟨?_, ?_, ?_⟩, by rw [hput], ?_⟩
  · rw [hput, List.map_append, List.nodup_append]
    refine ⟨ht.nodup, by simp, ?_⟩
    intro a ha b hb hab
    obtain ⟨e, he, rfl⟩ := List.mem_map.1 ha
    exact hother e he (hab.trans (by simpa using hb))
  · intro e he
    rw [hput, List.mem_append, List.mem_singleton] at he
    rcases he with he | rfl
    · exact ht.below e he
    · exact hplace
  · intro e he
    apply hkept
    rw [hput, List.mem_append, List.mem_singleton] at he
    rcases he with he | rfl
    · exact ht.upheld e he
    · exact hupper
  · rw [hput]
    simp [FileTree.files, Entry.content?]

theorem grows_makeDirectoryAt (ht : t.WellFormed)
    (hupper : t.at? place = none → t.at? place.dropLast = some .directory) :
    Grows t (t.makeDirectoryAt place).tree := by
  unfold makeDirectoryAt
  split
  case h_1 => exact Grows.refl ht
  case h_2 => exact Grows.refl ht
  case h_3 hfree => exact ht.grows_put hfree (hupper hfree)

/-- By induction on the names, which are given from the last to the first: the directories above are
made first. -/
theorem grows_makeDirectoriesUp (ht : t.WellFormed) (start : Location) (names : List String) :
    Grows t (t.makeDirectoriesUp start names).tree := by
  have hmake {w : FileTree} (hw : w.WellFormed) {name : String} {above : List String}
      {place : Location} (hfollow : w.follow start (name :: above).reverse = .ok place) :
      Grows w (w.makeDirectoryAt place).tree :=
    hw.grows_makeDirectoryAt (hw.at?_of_follow hfollow (by simp))
  induction names with
  | nil => exact Grows.refl ht
  | cons name above ih =>
      rw [makeDirectoriesUp]
      split
      case h_1 place hfollow => exact hmake ht hfollow
      case h_3 => exact Grows.refl ht
      case h_2 =>
        dsimp only
        split
        · split
          case h_1 place hfollow => exact ih.trans (hmake ih.wellFormed hfollow)
          case h_2 => exact ih
        · exact ih

theorem grows_makeDirectories (ht : t.WellFormed) (p : Path) :
    Grows t (t.makeDirectories p).tree := by
  unfold makeDirectories
  split
  · exact Grows.refl ht
  · exact ht.grows_makeDirectoriesUp _ _

end WellFormed

/-! ## Moving -/

/-- The tree after everything at `source` moved to `target`. -/
def relocated (t : FileTree) (source target : Location) : FileTree :=
  { t with entries := t.entries.map fun e => (relocate source target e.1, e.2) }

@[simp] theorem relocate_append (source target rest : Location) :
    relocate source target (source ++ rest) = target ++ rest := by
  simp [relocate]

theorem relocate_self (source target : Location) : relocate source target source = target := by
  simpa using relocate_append source target []

theorem relocate_of_outside (hother : ¬ source <+: place) :
    relocate source target place = place := by
  simp [relocate, hother]

/-- What stands in a directory that moves moves with it. -/
theorem relocate_dropLast (hne : place ≠ source) :
    (relocate source target place).dropLast = relocate source target place.dropLast := by
  by_cases hwithin : source <+: place
  · obtain ⟨rest, rfl⟩ := hwithin
    have hrest : rest ≠ [] := by simpa using hne
    rw [relocate_append, List.dropLast_append_of_ne_nil hrest,
      List.dropLast_append_of_ne_nil hrest, relocate_append]
  · have hshorter : place.dropLast <+: place := List.dropLast_prefix place
    have hupper : ¬ source <+: place.dropLast := fun h => hwithin (h.trans hshorter)
    rw [relocate_of_outside hwithin, relocate_of_outside hupper]

theorem files_relocated (t : FileTree) (source target : Location) :
    (t.relocated source target).files =
      t.files.map fun f => (relocate source target f.1, f.2) := by
  simp only [files, relocated, List.filterMap_map, List.map_filterMap]
  congr 1
  funext e
  cases h : e.2.content? <;> simp [h]

namespace WellFormed

/-- No two entries come to one location: at a free location and below it there is nothing to run
into. -/
theorem relocate_inj (ht : t.WellFormed) (hfree : t.at? target = none) {e f : Location × Entry}
    (he : e ∈ t.entries) (hf : f ∈ t.entries)
    (hsame : relocate source target e.1 = relocate source target f.1) : e.1 = f.1 := by
  have hmixed : ∀ {a b : Location × Entry}, b ∈ t.entries → source <+: a.1 → ¬ source <+: b.1 →
      relocate source target a.1 ≠ relocate source target b.1 := by
    rintro a b hb ⟨rest, hrest⟩ hother hsame
    rw [← hrest, relocate_append, relocate_of_outside hother] at hsame
    exact ht.not_within_of_free hfree hb ⟨rest, hsame⟩
  by_cases hea : source <+: e.1 <;> by_cases hfa : source <+: f.1
  · obtain ⟨rest, hrest⟩ := hea
    obtain ⟨rest', hrest'⟩ := hfa
    rw [← hrest, ← hrest', relocate_append, relocate_append] at hsame
    rw [← hrest, ← hrest', List.append_cancel_left hsame]
  · exact absurd hsame (hmixed hf hea hfa)
  · exact absurd hsame.symm (hmixed he hfa hea)
  · rwa [relocate_of_outside hea, relocate_of_outside hfa] at hsame

theorem nodup_relocated (ht : t.WellFormed) (hfree : t.at? target = none) :
    ((t.relocated source target).entries.map Prod.fst).Nodup := by
  have hmap : (t.relocated source target).entries.map Prod.fst =
      t.entries.map (fun e => relocate source target e.1) := by
    simp [FileTree.relocated, Function.comp_def]
  rw [hmap]
  refine List.Nodup.map_on (fun e he f hf hsame => ?_) (List.Nodup.of_map Prod.fst ht.nodup)
  exact List.inj_on_of_nodup_map ht.nodup he hf (ht.relocate_inj hfree he hf hsame)

theorem below_relocated (ht : t.WellFormed) (hfree : t.at? target = none) :
    ∀ e ∈ (t.relocated source target).entries, e.1 ≠ [] := by
  intro e he
  obtain ⟨f, hf, rfl⟩ := List.mem_map.1 he
  by_cases hwithin : source <+: f.1
  · obtain ⟨rest, hrest⟩ := hwithin
    rw [← hrest, relocate_append]
    simp [(at?_eq_none_iff.1 hfree).1]
  · rw [relocate_of_outside hwithin]
    exact ht.below f hf

/-- An entry is found again where it went; the root stays. -/
theorem at?_relocated (ht : t.WellFormed) (hsource : source ≠ []) (hfree : t.at? target = none)
    {q : Location} {x : Entry} (hq : t.at? q = some x) :
    (t.relocated source target).at? (relocate source target q) = some x := by
  by_cases hroot : q = []
  · subst hroot
    rw [relocate_of_outside (by simpa using hsource)]
    exact hq
  · have hmem : (relocate source target q, x) ∈ (t.relocated source target).entries :=
      List.mem_map_of_mem (f := fun e : Location × Entry => (relocate source target e.1, e.2))
        (mem_of_at? hroot hq)
    exact at?_of_nodup (ht.nodup_relocated hfree) (ht.below_relocated hfree _ hmem) hmem

/-- **A move.**  Everything at a location may move to a free one in a directory that does not move
along. -/
theorem relocated (ht : t.WellFormed) (hsource : source ≠ []) (hfree : t.at? target = none)
    (hupper : t.at? target.dropLast = some .directory) (hapart : ¬ source <+: target) :
    (t.relocated source target).WellFormed := by
  refine ⟨ht.nodup_relocated hfree, ht.below_relocated hfree, fun e he => ?_⟩
  obtain ⟨f, hf, rfl⟩ := List.mem_map.1 he
  by_cases hself : f.1 = source
  · have hshorter : target.dropLast <+: target := List.dropLast_prefix target
    have hkept : ¬ source <+: target.dropLast := fun h => hapart (h.trans hshorter)
    have hmoved := ht.at?_relocated hsource hfree hupper
    rw [relocate_of_outside hkept] at hmoved
    dsimp only
    rwa [hself, relocate_self]
  · dsimp only
    rw [relocate_dropLast hself]
    exact ht.at?_relocated hsource hfree (ht.upheld f hf)

end WellFormed

/-- What a move that succeeds does. -/
theorem move?_eq_some {p q : Path} (hmove : t.move? p q = some u) :
    ∃ source target, t.locate p = .ok source ∧ t.locate q = .ok target ∧ source ≠ [] ∧
      t.at? source ≠ none ∧ ¬ source <+: target ∧ u = t.relocated source target := by
  unfold move? at hmove
  split at hmove
  case h_2 => cases hmove
  case h_1 source target hsource htarget =>
    split at hmove
    · cases hmove
    case isFalse hgood =>
      simp only [Bool.or_eq_true, not_or, List.isEmpty_iff, List.isPrefixOf_iff_prefix,
        Option.isNone_iff_eq_none] at hgood
      exact ⟨source, target, hsource, htarget, hgood.1.1.2, hgood.1.2, hgood.2,
        (Option.some.inj hmove).symm⟩

end Rechristen.FileTree
