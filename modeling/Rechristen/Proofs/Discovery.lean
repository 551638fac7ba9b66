import Mathlib.Data.List.Infix
import Rechristen.Discovery
import Rechristen.Proofs.FileTree.Moves

/-!
# Discovery finds exactly the files asked for

The files of a directory are found by a walk that goes down from directory to directory and turns
back at those that are excluded, be it by their names, wherever they are, or by their paths from the
root.  It is bounded by the depth of the tree.

A file lies at the end of a list of names.  The walk comes to it if and only if each proper
beginning of that list is a directory at which it does not turn back (`mem_walk_iff`, by induction
on the number of levels): in a tree these are directories, so only the exclusions count, and the
bound is never reached.  What the walk finds at different ends is different (`nodup_walk`), so no
path is listed twice.
-/

namespace Rechristen

variable {tree : FileTree} {place : Location} {name : String} {entry : Entry} {content : Bytes}

/-! ## The order of paths -/

theorem Path.le_trans (a b c : Path) (hab : a.le b = true) (hbc : b.le c = true) :
    a.le c = true :=
  Std.TransCmp.isLE_trans hab hbc

theorem Path.le_total (a b : Path) : (a.le b || b.le a) = true := by
  have hswap : compare b.parts a.parts = (compare a.parts b.parts).swap := Std.OrientedCmp.eq_swap
  rw [Path.le, Path.le, hswap]
  cases compare a.parts b.parts <;> rfl

/-! ## One directory -/

namespace FileTree

theorem WellFormed.mem_children_iff (ht : tree.WellFormed) :
    (name, entry) ∈ tree.children place ↔ tree.at? (place ++ [name]) = some entry := by
  unfold children
  rw [List.mem_filterMap]
  constructor
  · rintro ⟨⟨location, found⟩, he, hchild⟩
    split at hchild
    case isFalse => cases hchild
    case isTrue hupper =>
      obtain ⟨last, hlast, hpair⟩ := Option.map_eq_some_iff.1 hchild
      obtain ⟨rfl, rfl⟩ := Prod.mk.inj hpair
      have hlocation : place ++ [last] = location := by
        rw [← hupper]
        exact List.dropLast_append_getLast? last hlast
      rw [hlocation]
      exact ht.at?_of_mem he
  · intro hfound
    exact ⟨(place ++ [name], entry), mem_of_at? (by simp) hfound, by simp⟩

/-- No two entries of a directory have one name. -/
theorem WellFormed.nodup_children (ht : tree.WellFormed) (place : Location) :
    ((tree.children place).map Prod.fst).Nodup := by
  refine List.Nodup.of_map (fun name => place ++ [name]) (ht.nodup.sublist ?_)
  unfold children
  induction tree.entries with
  | nil => exact List.Sublist.refl _
  | cons e rest ih =>
      rw [List.filterMap_cons, List.map_cons]
      split
      case h_1 => exact ih.cons e.1
      case h_2 child hchild =>
        split at hchild
        case isFalse => cases hchild
        case isTrue hupper =>
          obtain ⟨last, hlast, rfl⟩ := Option.map_eq_some_iff.1 hchild
          have hlocation : place ++ [last] = e.1 := by
            rw [← hupper]
            exact List.dropLast_append_getLast? last hlast
          rw [List.map_cons, List.map_cons, hlocation]
          exact ih.cons_cons e.1

theorem length_le_depth (hfound : tree.at? place = some entry) : place.length ≤ tree.depth := by
  have hfold : ∀ (entries : List (Location × Entry)) (n : Nat),
      n ≤ entries.foldl (fun n e => max n e.1.length) n ∧
        ∀ e ∈ entries, e.1.length ≤ entries.foldl (fun n e => max n e.1.length) n := by
    intro entries
    induction entries with
    | nil => simp
    | cons first rest ih =>
        intro n
        obtain ⟨hstart, hrest⟩ := ih (max n first.1.length)
        rw [List.foldl_cons]
        refine ⟨by omega, fun e he => ?_⟩
        rcases List.mem_cons.1 he with rfl | he
        · omega
        · exact hrest e he
  by_cases hplace : place = []
  · simp [hplace]
  · exact (hfold tree.entries 0).2 _ (mem_of_at? hplace hfound)

end FileTree

namespace Discovery

theorem mem_filesIn_iff (ht : tree.WellFormed) :
    (name, content) ∈ filesIn tree place ↔ tree.at? (place ++ [name]) = some (.file content) := by
  rw [← ht.mem_children_iff, filesIn, sortByName, List.mem_mergeSort, List.mem_filterMap]
  constructor
  · rintro ⟨⟨child, found⟩, hchild, hfile⟩
    obtain ⟨bytes, hbytes, hpair⟩ := Option.map_eq_some_iff.1 hfile
    obtain ⟨rfl, rfl⟩ := Prod.mk.inj hpair
    cases found with
    | directory => cases hbytes
    | file bytes' =>
        obtain rfl := Option.some.inj hbytes
        exact hchild
  · intro hchild
    exact ⟨_, hchild, rfl⟩

theorem mem_directoriesIn_iff (ht : tree.WellFormed) :
    name ∈ directoriesIn tree place ↔ tree.at? (place ++ [name]) = some .directory := by
  rw [← ht.mem_children_iff, directoriesIn, sortByName, List.mem_map]
  simp only [List.mem_mergeSort, List.mem_filter]
  constructor
  · rintro ⟨⟨child, found⟩, ⟨hchild, hdirectory⟩, rfl⟩
    cases found with
    | directory => exact hchild
    | file bytes => cases hdirectory
  · intro hchild
    exact ⟨_, ⟨hchild, rfl⟩, rfl⟩

theorem nodup_filesIn (ht : tree.WellFormed) (place : Location) :
    ((filesIn tree place).map Prod.fst).Nodup := by
  have hperm := (List.mergeSort_perm ((tree.children place).filterMap fun e =>
    e.2.content?.map fun c => (e.1, c)) fun a b => decide (a.1 ≤ b.1)).map Prod.fst
  refine hperm.nodup_iff.2 ((ht.nodup_children place).sublist ?_)
  induction tree.children place with
  | nil => exact List.Sublist.refl _
  | cons e rest ih =>
      cases hcontent : e.2.content? with
      | none => simpa [hcontent] using ih.cons e.1
      | some bytes => simpa [hcontent] using ih

theorem nodup_directoriesIn (ht : tree.WellFormed) (place : Location) :
    (directoriesIn tree place).Nodup := by
  have hperm := (List.mergeSort_perm ((tree.children place).filter fun e => e.2.isDirectory)
    fun a b => decide (a.1 ≤ b.1)).map Prod.fst
  exact hperm.nodup_iff.2 ((ht.nodup_children place).sublist (List.filter_sublist.map _))

/-! ## The walk -/

variable {excluded : List String} {root : Location} {depth : Nat} {above names rest : List String}

/-- The walk does not turn back on the way from `above` along names, before the last of them. -/
def Passable (excluded above names : List String) : Prop :=
  ∀ directory name, directory ++ [name] <+: names → directory ++ [name] ≠ names →
    isExcluded excluded (above ++ directory) name = false

theorem passable_singleton (excluded above : List String) (name : String) :
    Passable excluded above [name] := by
  intro directory last hbegins hproper
  refine absurd (hbegins.eq_of_length_le ?_) hproper
  simp

/-- The first directory on the way is entered, and the way goes on from there. -/
theorem passable_cons_iff (hrest : rest ≠ []) :
    Passable excluded above (name :: rest) ↔
      isExcluded excluded above name = false ∧ Passable excluded (above ++ [name]) rest := by
  constructor
  · intro hpassable
    refine ⟨?_, fun directory last hbegins hproper => ?_⟩
    · have hfirst := hpassable [] name (by simp) (by simpa using Ne.symm hrest)
      rwa [List.append_nil] at hfirst
    · have hlater := hpassable (name :: directory) last (by simpa using hbegins)
        (by simpa using hproper)
      simpa using hlater
  · rintro ⟨hfirst, hlater⟩ directory last hbegins hproper
    cases directory with
    | nil =>
        obtain rfl : last = name := by simpa using hbegins
        rwa [List.append_nil]
    | cons first directory =>
        rw [List.cons_append, List.cons_prefix_cons] at hbegins
        obtain ⟨rfl, hbegins⟩ := hbegins
        simpa using hlater directory last hbegins (by simpa using hproper)

/-- **The walk.**  By induction on the number of levels: the first name on the way to a file is that
of the file, or that of a directory from which the walk goes on. -/
theorem mem_walk_iff (ht : tree.WellFormed) :
    (names, content) ∈ walk tree excluded root depth above ↔
      ∃ rest, names = above ++ rest ∧ rest ≠ [] ∧ rest.length ≤ depth ∧
        tree.at? (root ++ names) = some (.file content) ∧ Passable excluded above rest := by
  induction depth generalizing above with
  | zero =>
      simp only [walk, List.not_mem_nil, false_iff]
      rintro ⟨rest, -, hrest, hlength, -⟩
      exact hrest (List.eq_nil_of_length_eq_zero (by omega))
  | succ depth ih =>
      simp only [walk, List.mem_append, List.mem_map, List.mem_flatMap, List.mem_filter,
        Bool.not_eq_true', mem_directoriesIn_iff ht, ih]
      constructor
      · rintro (⟨⟨file, bytes⟩, hfile, hpair⟩ |
          ⟨directory, ⟨-, hopen⟩, rest, rfl, hrest, hlength, hfound, hpassable⟩)
        · obtain ⟨rfl, rfl⟩ := Prod.mk.inj hpair
          refine ⟨[file], rfl, by simp, by simp, ?_, passable_singleton _ _ _⟩
          rw [← List.append_assoc]
          exact (mem_filesIn_iff ht).1 hfile
        · refine ⟨directory :: rest, by simp, by simp, by simpa using hlength, hfound, ?_⟩
          exact (passable_cons_iff hrest).2 ⟨hopen, hpassable⟩
      · rintro ⟨rest, rfl, hrest, hlength, hfound, hpassable⟩
        cases rest with
        | nil => exact absurd rfl hrest
        | cons first later =>
            by_cases hlater : later = []
            · subst hlater
              refine Or.inl ⟨(first, content), (mem_filesIn_iff ht).2 ?_, rfl⟩
              rwa [List.append_assoc]
            · obtain ⟨hopen, hon⟩ := (passable_cons_iff hlater).1 hpassable
              -- What lies above a file is a directory, so the walk finds it.
              have hdirectory : tree.at? (root ++ above ++ [first]) = some .directory := by
                refine ht.at?_of_above ⟨later, by simp⟩ ?_ hfound
                simpa using Ne.symm hlater
              refine Or.inr ⟨first, ⟨hdirectory, hopen⟩, later, by simp, hlater, ?_, ?_, hon⟩
              · simpa using hlength
              · simpa using hfound

/-- No file is found twice: the names found from one directory of a level start with its name, and
those of the files of the level are shorter. -/
theorem nodup_walk (ht : tree.WellFormed) (excluded : List String) (root : Location) (depth : Nat)
    (above : List String) : ((walk tree excluded root depth above).map Prod.fst).Nodup := by
  have hstart : ∀ {depth : Nat} {above names : List String},
      names ∈ (walk tree excluded root depth above).map Prod.fst →
        ∃ rest, names = above ++ rest ∧ rest ≠ [] := by
    intro depth above names hnames
    obtain ⟨⟨found, content⟩, hfound, rfl⟩ := List.mem_map.1 hnames
    obtain ⟨rest, hrest, hne, -⟩ := (mem_walk_iff ht).1 hfound
    exact ⟨rest, hrest, hne⟩
  induction depth generalizing above with
  | zero => exact List.nodup_nil
  | succ depth ih =>
      rw [walk, List.map_append, List.map_map, List.map_flatMap, List.nodup_append]
      refine ⟨?_, List.nodup_flatMap.2 ⟨fun name _ => ih _, ?_⟩, ?_⟩
      · have hfiles := (nodup_filesIn ht (root ++ above)).map
          (f := fun name => above ++ [name]) (fun a b hab => by simpa using hab)
        rwa [List.map_map] at hfiles
      · refine ((nodup_directoriesIn ht (root ++ above)).filter _).imp ?_
        intro a b hne names ha hb
        obtain ⟨rest, rfl, -⟩ := hstart ha
        obtain ⟨rest', hrest', -⟩ := hstart hb
        exact hne (by simpa using (List.append_inj hrest' (by simp)).1)
      · intro names hfile other hother hsame
        obtain ⟨file, -, rfl⟩ := List.mem_map.1 hfile
        obtain ⟨directory, -, hbelow⟩ := List.mem_flatMap.1 hother
        obtain ⟨rest, rfl, hrest⟩ := hstart hbelow
        have hshort : directory = file.1 ∧ rest = [] := by simpa using hsame.symm
        exact hrest hshort.2

/-! ## Discovery -/

/-- A directory, told by its names from the root, is excluded by its name or by its path. -/
def Excludes (s : DiscoverySettings) (directory : List String) : Prop :=
  ∃ written ∈ s.excludeDirs, directory.getLast? = some (excludedText written) ∨
    "/".intercalate directory = excludedText written

instance (s : DiscoverySettings) (directory : List String) : Decidable (Excludes s directory) :=
  inferInstanceAs (Decidable (∃ written ∈ s.excludeDirs, _))

theorem isExcluded_eq_true_iff {s : DiscoverySettings} :
    isExcluded (s.excludeDirs.map excludedText) above name = true ↔
      Excludes s (above ++ [name]) := by
  simp only [isExcluded, Excludes, Bool.or_eq_true, List.contains_iff_mem, List.mem_map,
    List.getLast?_append, List.getLast?_singleton, Option.some_or, Option.some.injEq]
  constructor
  · rintro (⟨written, hmem, htext⟩ | ⟨written, hmem, htext⟩)
    · exact ⟨written, hmem, Or.inl htext.symm⟩
    · exact ⟨written, hmem, Or.inr htext.symm⟩
  · rintro ⟨written, hmem, htext | htext⟩
    · exact Or.inl ⟨written, hmem, htext.symm⟩
    · exact Or.inr ⟨written, hmem, htext.symm⟩

theorem passable_iff {s : DiscoverySettings} :
    Passable (s.excludeDirs.map excludedText) [] names ↔
      ∀ directory, directory <+: names → directory ≠ [] → directory ≠ names →
        ¬ Excludes s directory := by
  simp only [Passable, List.nil_append, ← Bool.not_eq_true, isExcluded_eq_true_iff]
  constructor
  · intro hpassable directory hbegins hne hproper
    have hsplit := List.dropLast_append_getLast hne
    rw [← hsplit] at hbegins hproper ⊢
    exact hpassable _ _ hbegins hproper
  · intro hopen upper name hbegins hproper
    exact hopen _ hbegins (by simp) hproper

theorem hasExtension_eq_true_iff {s : DiscoverySettings} {p : Path} :
    hasExtension s p = true ↔
      ∃ extension ∈ s.extensions, Text.lowercase p.suffix = Text.lowercase extension := by
  rw [hasExtension, List.contains_iff_mem, List.mem_map]
  simp only [eq_comm]

/-- **Discovery is exact.**  In a directory the paths of files are listed in order, part by part,
and none twice.  They are the paths of exactly those files, anywhere below the directory, that have
one of the suffixes, in any letter case, and not too many bytes, and on the way to which no
directory is excluded. -/
theorem discover_exact (ht : tree.WellFormed) (s : DiscoverySettings) {path : Path}
    (hlocate : tree.locate path = .ok root) (hdirectory : tree.at? root = some .directory) :
    ∃ paths events, discover tree s path = .ok (paths, events) ∧
      paths.Pairwise (fun a b => a.le b = true) ∧ paths.Nodup ∧
      ∀ p, p ∈ paths ↔ ∃ names content,
        p = { path with names := path.names ++ names } ∧
        tree.at? (root ++ names) = some (.file content) ∧
        (∃ extension ∈ s.extensions, Text.lowercase p.suffix = Text.lowercase extension) ∧
        (content.length : Int) ≤ s.maxFileSize ∧
        ∀ directory, directory <+: names → directory ≠ [] → directory ≠ names →
          ¬ Excludes s directory := by
  refine ⟨(below tree s path root).1, (below tree s path root).2, ?_, ?_, ?_, fun p => ?_⟩
  · simp only [discover, hlocate, hdirectory]
  · exact List.pairwise_mergeSort Path.le_trans Path.le_total _
  · rw [below, (List.mergeSort_perm _ _).nodup_iff]
    -- The walk comes to every file once, and the filters only leave some of them out.
    have hpaths : (((walk tree (s.excludeDirs.map excludedText) root (tree.depth + 1) []).map
        fun f => (({ path with names := path.names ++ f.1 } : Path), f.2)).map Prod.fst).Nodup := by
      have hwalk := (nodup_walk ht (s.excludeDirs.map excludedText) root (tree.depth + 1) []).map
        (f := fun names => ({ path with names := path.names ++ names } : Path))
        (fun a b hab => by simpa using hab)
      rw [List.map_map] at hwalk ⊢
      exact hwalk
    exact hpaths.sublist ((List.filter_sublist.trans List.filter_sublist).map _)
  · simp only [below, List.mem_mergeSort, List.mem_map, List.mem_filter, ← passable_iff]
    constructor
    · rintro ⟨_, ⟨⟨⟨⟨names, content⟩, hfile, rfl⟩, hextension⟩, hfits⟩, rfl⟩
      obtain ⟨rest, hrest, -, -, hfound, hpassable⟩ := (mem_walk_iff ht).1 hfile
      obtain rfl : names = rest := hrest
      exact ⟨names, content, rfl, hfound, hasExtension_eq_true_iff.1 hextension,
        of_decide_eq_true hfits, hpassable⟩
    · rintro ⟨names, content, rfl, hfound, hextension, hsize, hpassable⟩
      have hne : names ≠ [] := by
        rintro rfl
        rw [List.append_nil, hdirectory] at hfound
        cases hfound
      -- The walk goes one level deeper than the tree does, so that it misses nothing.
      have hdepth : names.length ≤ tree.depth + 1 := by
        have hlength := FileTree.length_le_depth hfound
        rw [List.length_append] at hlength
        omega
      refine ⟨_, ⟨⟨⟨(names, content), (mem_walk_iff ht).2 ?_, rfl⟩,
        hasExtension_eq_true_iff.2 hextension⟩, decide_eq_true hsize⟩, rfl⟩
      exact ⟨names, rfl, hne, hdepth, hfound, hpassable⟩

/-! ### One directory of a name is excluded, another is not -/

/-- Two directories are called `cache`, and files lie on three levels. -/
def scatteredTree : FileTree where
  home := ["proj"]
  entries :=
    [(["proj"], .directory), (["proj", "src"], .directory),
      (["proj", "src", "A.PHP"], .file [60, 63]), (["proj", "src", "B.php"], .file [60, 63, 10]),
      (["proj", "src", "cache"], .directory), (["proj", "src", "cache", "C.php"], .file []),
      (["proj", "src", "vendor"], .directory), (["proj", "src", "vendor", "V.php"], .file []),
      (["proj", "cache"], .directory), (["proj", "cache", "D.php"], .file [60])]

/-- One directory is excluded by its path and one by its name, and files are small. -/
def choosy : DiscoverySettings where
  extensions := [".Php"]
  excludeDirs := ["/src/cache/", "vendor"]
  maxFileSize := 2

theorem discover_exact_scattered :
    scatteredTree.WellFormed ∧ scatteredTree.locate ⟨"", []⟩ = .ok ["proj"] ∧
    ∃ paths events, discover scatteredTree choosy ⟨"", []⟩ = .ok (paths, events) ∧
      ⟨"", ["src", "A.PHP"]⟩ ∈ paths ∧ ⟨"", ["cache", "D.php"]⟩ ∈ paths ∧
      ⟨"", ["src", "B.php"]⟩ ∉ paths ∧ ⟨"", ["src", "cache", "C.php"]⟩ ∉ paths ∧
      ⟨"", ["src", "vendor", "V.php"]⟩ ∉ paths := by
  have htree : scatteredTree.WellFormed := by decide +kernel
  have hlocate : scatteredTree.locate ⟨"", []⟩ = .ok ["proj"] := by decide +kernel
  obtain ⟨paths, events, hok, -, -, hmem⟩ :=
    discover_exact htree choosy hlocate (by decide +kernel)
  have hdirectories : ∀ {names : List String},
      (∀ directory ∈ names.inits, directory ≠ [] → directory ≠ names →
          ¬ Excludes choosy directory) →
        ∀ directory, directory <+: names → directory ≠ [] → directory ≠ names →
          ¬ Excludes choosy directory :=
    fun hall directory hbegins => hall directory ((List.mem_inits _ _).2 hbegins)
  refine ⟨htree, hlocate, paths, events, hok, ?_, ?_, ?_, ?_, ?_⟩
  · exact (hmem _).2 ⟨["src", "A.PHP"], [60, 63], rfl, by decide +kernel, by decide +kernel,
      by decide, hdirectories (by decide +kernel)⟩
  · exact (hmem _).2 ⟨["cache", "D.php"], [60], rfl, by decide +kernel, by decide +kernel,
      by decide, hdirectories (by decide +kernel)⟩
  · intro hlisted
    obtain ⟨names, content, hpath, hfound, -, hsize, -⟩ := (hmem _).1 hlisted
    obtain rfl : names = ["src", "B.php"] := (Path.mk.inj hpath).2.symm
    obtain rfl : [60, 63, 10] = content := Entry.file.inj (Option.some.inj hfound)
    exact absurd hsize (by decide)
  · intro hlisted
    obtain ⟨names, -, hpath, -, -, -, hopen⟩ := (hmem _).1 hlisted
    obtain rfl : names = ["src", "cache", "C.php"] := (Path.mk.inj hpath).2.symm
    exact hopen ["src", "cache"] (by decide) (by decide) (by decide) (by decide +kernel)
  · intro hlisted
    obtain ⟨names, -, hpath, -, -, -, hopen⟩ := (hmem _).1 hlisted
    obtain rfl : names = ["src", "vendor", "V.php"] := (Path.mk.inj hpath).2.symm
    exact hopen ["src", "vendor"] (by decide) (by decide) (by decide) (by decide +kernel)

end Discovery

end Rechristen
