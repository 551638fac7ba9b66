import Rechristen.Proofs.Name.Key
import Rechristen.Proofs.Text.Lowercase

/-!
# The last segment of a name and what stands before it

A rename gives a class another last segment and leaves it in its namespace.  This file relates the
two parts of a name to its key and to the ways names are put together.

Two names have one key exactly if their namespaces have one key and their last segments have one
lower-case form (`key_eq_iff`).  Replacing the last segment commutes with every way of completing a
written name: stripping leading separators, putting a namespace in front, or putting what an import
stands for in front (`normalize_withLast`, `qualify_withLast`, `withLast_join`).
-/

namespace Rechristen

/-! ## Cuts -/

namespace Text

/-- A list that holds `c` splits at the last one. -/
theorem exists_split_last {c : Char} {cs : List Char} (hmem : c ∈ cs) :
    ∃ before last, cs = before ++ c :: last ∧ c ∉ last := by
  obtain ⟨last, before, hsplit, hlast⟩ := List.eq_append_cons_of_mem (List.mem_reverse.2 hmem)
  refine ⟨before.reverse, last.reverse, ?_, by simpa using hlast⟩
  rw [← List.reverse_reverse cs, hsplit]
  simp

/-- It splits in one way only. -/
theorem split_last_inj {c : Char} {before before' last last' : List Char}
    (hsplit : before ++ c :: last = before' ++ c :: last') (hlast : c ∉ last) (hlast' : c ∉ last') :
    before = before' ∧ last = last' := by
  rcases List.append_eq_append_iff.1 hsplit with ⟨middle, rfl, htail⟩ | ⟨middle, rfl, htail⟩
  · cases middle with
    | nil => simpa using htail
    | cons d middle =>
        obtain ⟨-, rfl⟩ := List.cons.inj htail
        simp at hlast
  · cases middle with
    | nil => simpa using htail.symm
    | cons d middle =>
        obtain ⟨-, rfl⟩ := List.cons.inj htail
        simp at hlast'

/-- A search for `c` passes over what does not hold it. -/
theorem passes_of_not_mem {c : Char} {cs : List Char} (hcs : c ∉ cs) :
    ∀ d ∈ cs, (d != c) = true := by
  intro d hd
  simp only [bne_iff_ne, ne_eq]
  rintro rfl
  exact hcs hd

theorem cutLast_of_split {c : Char} {s : String} {before last : List Char}
    (hs : s.toList = before ++ c :: last) (hlast : c ∉ last) :
    cutLast c s = (some (String.ofList before), String.ofList last) := by
  have hpass : ∀ d ∈ last.reverse, (d != c) = true :=
    passes_of_not_mem (mt List.mem_reverse.1 hlast)
  have hreverse : s.toList.reverse = last.reverse ++ c :: before.reverse := by simp [hs]
  have hdrop : s.toList.reverse.dropWhile (· != c) = c :: before.reverse := by
    rw [hreverse, List.dropWhile_append_of_pos hpass]
    simp
  have htake : s.toList.reverse.takeWhile (· != c) = last.reverse := by
    rw [hreverse, List.takeWhile_append_of_pos hpass]
    simp
  unfold cutLast
  rw [hdrop, htake]
  simp

theorem cutLast_of_not_mem {c : Char} {s : String} (hs : c ∉ s.toList) :
    cutLast c s = (none, s) := by
  have hdrop : s.toList.reverse.dropWhile (· != c) = [] :=
    List.dropWhile_eq_nil_iff.2 (passes_of_not_mem (mt List.mem_reverse.1 hs))
  unfold cutLast
  rw [hdrop]

theorem cut_of_split {c : Char} {s : String} {first rest : List Char}
    (hs : s.toList = first ++ c :: rest) (hfirst : c ∉ first) :
    cut c s = (String.ofList first, some (String.ofList rest)) := by
  have hpass : ∀ d ∈ first, (d != c) = true := passes_of_not_mem hfirst
  have hdrop : s.toList.dropWhile (· != c) = c :: rest := by
    rw [hs, List.dropWhile_append_of_pos hpass]
    simp
  have htake : s.toList.takeWhile (· != c) = first := by
    rw [hs, List.takeWhile_append_of_pos hpass]
    simp
  unfold cut
  rw [hdrop, htake]

theorem cut_of_not_mem {c : Char} {s : String} (hs : c ∉ s.toList) : cut c s = (s, none) := by
  have hdrop : s.toList.dropWhile (· != c) = [] :=
    List.dropWhile_eq_nil_iff.2 (passes_of_not_mem hs)
  unfold cut
  rw [hdrop]

end Text

namespace Name

/-! ## Namespace and last segment -/

theorem isCompound_eq_false_iff {name : Name} :
    name.isCompound = false ↔ separator ∉ name.toList := by
  simp [isCompound]

theorem isSeparator_iff {c : Char} : isSeparator c = true ↔ c = separator := by
  simp [isSeparator]

/-- A normalized name does not begin with a separator. -/
theorem normalize_ne_cons (name : Name) (rest : List Char) :
    name.normalize.toList ≠ separator :: rest := by
  intro hcons
  rw [toList_normalize] at hcons
  have hhead := List.head?_dropWhile_not isSeparator name.toList
  rw [hcons] at hhead
  simp [isSeparator] at hhead

/-- A list that does not begin with a separator is a normalized name. -/
theorem normalize_eq_self {name : Name} (hhead : ∀ rest, name.toList ≠ separator :: rest) :
    name.normalize = name := by
  rw [← String.toList_inj, toList_normalize]
  cases hname : name.toList with
  | nil => rfl
  | cons c rest =>
      have hc : isSeparator c = false := by
        rw [← Bool.not_eq_true, isSeparator_iff]
        rintro rfl
        exact hhead rest hname
      simp [hc]

/-- The two parts of a name: it has no separator, or it splits at the last one. -/
theorem parts_cases (name : Name) :
    (separator ∉ name.normalize.toList ∧ name.space = "" ∧ name.short = name.normalize) ∨
    ∃ before last, name.normalize.toList = before ++ separator :: last ∧ separator ∉ last ∧
      before ≠ [] ∧ name.space = String.ofList before ∧ name.short = String.ofList last := by
  by_cases hmem : separator ∈ name.normalize.toList
  · obtain ⟨before, last, hsplit, hlast⟩ := Text.exists_split_last hmem
    have hcut := Text.cutLast_of_split hsplit hlast
    refine Or.inr ⟨before, last, hsplit, hlast, ?_, ?_, ?_⟩
    · rintro rfl
      exact normalize_ne_cons name last hsplit
    · simp [space, hcut]
    · simp [short, hcut]
  · have hcut := Text.cutLast_of_not_mem hmem
    exact Or.inl ⟨hmem, by simp [space, hcut], by simp [short, hcut]⟩

theorem isCompound_short (name : Name) : name.short.isCompound = false := by
  rw [isCompound_eq_false_iff]
  rcases parts_cases name with ⟨hfree, -, hshort⟩ | ⟨before, last, -, hlast, -, -, hshort⟩
  · rwa [hshort]
  · simpa [hshort] using hlast

/-- The parts of a name are found from how its normal form splits. -/
theorem parts_of_split {name : Name} {before last : List Char}
    (hsplit : name.normalize.toList = before ++ separator :: last) (hlast : separator ∉ last) :
    name.space = String.ofList before ∧ name.short = String.ofList last := by
  have hcut := Text.cutLast_of_split hsplit hlast
  exact ⟨by simp [space, hcut], by simp [short, hcut]⟩

theorem parts_of_simple {name : Name} (hsimple : name.isCompound = false) :
    name.normalize = name ∧ name.space = "" ∧ name.short = name := by
  rw [isCompound_eq_false_iff] at hsimple
  have hnormal : name.normalize = name := by
    apply normalize_eq_self
    intro rest hcons
    simp [hcons] at hsimple
  have hcut := Text.cutLast_of_not_mem hsimple
  exact ⟨hnormal, by simp [space, hnormal, hcut], by simp [short, hnormal, hcut]⟩

theorem normalize_space (name : Name) : name.space.normalize = name.space := by
  rcases parts_cases name with ⟨-, hspace, -⟩ | ⟨before, last, hsplit, -, hbefore, hspace, -⟩
  · rw [hspace]
    rfl
  · apply normalize_eq_self
    intro rest hcons
    rw [hspace, String.toList_ofList] at hcons
    rw [hcons] at hsplit
    exact normalize_ne_cons name _ hsplit

@[simp] theorem space_normalize (name : Name) : name.normalize.space = name.space := by
  simp [space]

@[simp] theorem short_normalize (name : Name) : name.normalize.short = name.short := by
  simp [short]

/-! ## Keys -/

theorem toList_key (name : Name) :
    name.key.text.toList = Text.lowerFrom [] name.normalize.toList := by
  simp [key, Text.lowercase]

theorem key_inj {a b : Name} :
    a.key = b.key ↔
      Text.lowerFrom [] a.normalize.toList = Text.lowerFrom [] b.normalize.toList := by
  rw [← toList_key, ← toList_key, String.toList_inj]
  exact ⟨fun h => by rw [h], fun h => by cases ha : a.key; cases hb : b.key; simp_all⟩

theorem lowercase_inj {a b : String} :
    Text.lowercase a = Text.lowercase b ↔
      Text.lowerFrom [] a.toList = Text.lowerFrom [] b.toList := by
  unfold Text.lowercase
  exact ⟨fun h => by simpa using congrArg String.toList h, fun h => by rw [h]⟩

theorem key_space_inj {a b : Name} :
    a.space.key = b.space.key ↔
      Text.lowerFrom [] a.space.toList = Text.lowerFrom [] b.space.toList := by
  rw [key_inj, normalize_space, normalize_space]

/-- Two names have one key if their namespaces have one and their last segments differ at most in
letter case. -/
theorem key_eq_iff {a b : Name} :
    a.key = b.key ↔
      a.space.key = b.space.key ∧ Text.lowercase a.short = Text.lowercase b.short := by
  rw [key_inj, key_space_inj, lowercase_inj]
  rcases parts_cases a with ⟨hfree, hspace, hshort⟩ |
    ⟨before, last, hsplit, hlast, hbefore, hspace, hshort⟩ <;>
  rcases parts_cases b with ⟨hfree', hspace', hshort'⟩ |
    ⟨before', last', hsplit', hlast', hbefore', hspace', hshort'⟩
  · rw [hspace, hshort, hspace', hshort']
    simp
  · -- One of the names has a namespace: there is a separator in one lower-case form only.
    rw [hspace, hspace', hsplit', Text.lowerFrom_append_separator, String.toList_ofList]
    constructor
    · intro hlower
      have hmem : separator ∈ Text.lowerFrom [] a.normalize.toList := by
        rw [hlower]
        simp
      exact absurd (Text.separator_mem_lowerFrom_iff.1 hmem) hfree
    · rintro ⟨hempty, -⟩
      exact absurd (Text.lowerFrom_eq_nil_iff.1 hempty.symm) (by simpa using hbefore')
  · rw [hspace, hspace', hsplit, Text.lowerFrom_append_separator, String.toList_ofList]
    constructor
    · intro hlower
      have hmem : separator ∈ Text.lowerFrom [] b.normalize.toList := by
        rw [← hlower]
        simp
      exact absurd (Text.separator_mem_lowerFrom_iff.1 hmem) hfree'
    · rintro ⟨hempty, -⟩
      exact absurd (Text.lowerFrom_eq_nil_iff.1 hempty) (by simpa using hbefore)
  · -- Both have one: both lower-case forms are split at their last separators.
    rw [hspace, hshort, hspace', hshort', hsplit, hsplit', Text.lowerFrom_append_separator,
      Text.lowerFrom_append_separator]
    simp only [String.toList_ofList]
    constructor
    · intro hlower
      exact Text.split_last_inj hlower (mt Text.separator_mem_lowerFrom_iff.1 hlast)
        (mt Text.separator_mem_lowerFrom_iff.1 hlast')
    · rintro ⟨hbefores, hlasts⟩
      rw [hbefores, hlasts]

/-! ## Another last segment -/

theorem toList_withLast {written : Name} {before old : List Char}
    (hsplit : written.toList = before ++ separator :: old) (hold : separator ∉ old) (last : Name) :
    (written.withLast last).toList = before ++ separator :: last.toList := by
  rw [withLast, Text.cutLast_of_split hsplit hold]
  simp

theorem withLast_of_simple {written last : Name} (hsimple : written.isCompound = false) :
    written.withLast last = last := by
  rw [withLast, Text.cutLast_of_not_mem (isCompound_eq_false_iff.1 hsimple)]

/-- A name has its own last segment. -/
theorem withLast_self (written : Name) :
    written.withLast (Text.cutLast separator written).2 = written := by
  by_cases hmem : separator ∈ written.toList
  · obtain ⟨before, old, hsplit, hold⟩ := Text.exists_split_last hmem
    rw [← String.toList_inj, toList_withLast hsplit hold, Text.cutLast_of_split hsplit hold, hsplit]
    simp
  · rw [withLast_of_simple (isCompound_eq_false_iff.2 hmem), Text.cutLast_of_not_mem hmem]

/-- What stands before a separator plays no part. -/
theorem withLast_join (before written last : Name) :
    (before ++ String.singleton separator ++ written).withLast last =
      before ++ String.singleton separator ++ written.withLast last := by
  rw [← String.toList_inj]
  by_cases hmem : separator ∈ written.toList
  · obtain ⟨front, old, hsplit, hold⟩ := Text.exists_split_last hmem
    have hwhole : (before ++ String.singleton separator ++ written).toList =
        (before.toList ++ separator :: front) ++ separator :: old := by
      simp [hsplit]
    rw [toList_withLast hwhole hold last]
    simp [toList_withLast hsplit hold last]
  · have hwhole : (before ++ String.singleton separator ++ written).toList =
        before.toList ++ separator :: written.toList := by
      simp
    rw [toList_withLast hwhole hmem last, withLast_of_simple (isCompound_eq_false_iff.2 hmem)]
    simp

theorem qualify_withLast (space written last : Name) :
    qualify space (written.withLast last) = (qualify space written).withLast last := by
  unfold qualify
  dsimp only
  split
  · rfl
  · rw [withLast_join]

theorem isCompound_withLast {written last : Name} (hlast : last.isCompound = false) :
    (written.withLast last).isCompound = written.isCompound := by
  cases hwritten : written.isCompound with
  | false => rw [withLast_of_simple hwritten, hlast]
  | true =>
      obtain ⟨before, old, hsplit, hold⟩ := Text.exists_split_last
        (show separator ∈ written.toList by simpa [isCompound] using hwritten)
      simp [isCompound, toList_withLast hsplit hold last]

/-- A name is its normal form after some separators. -/
theorem exists_leading (name : Name) :
    ∃ leading, name.toList = leading ++ name.normalize.toList ∧
      ∀ c ∈ leading, isSeparator c = true := by
  refine ⟨name.toList.takeWhile isSeparator, ?_, fun c hc => List.mem_takeWhile_imp hc⟩
  rw [toList_normalize, List.takeWhile_append_dropWhile]

/-- Separators in front of what does not begin with one are all that is stripped. -/
theorem normalize_of_leading {name rest : Name} (leading : List Char)
    (hname : name.toList = leading ++ rest.toList) (hleading : ∀ c ∈ leading, isSeparator c = true)
    (hrest : rest.normalize = rest) : name.normalize = rest := by
  rw [← String.toList_inj, toList_normalize, hname, List.dropWhile_append_of_pos hleading,
    ← toList_normalize, hrest]

/-- The last segment may be replaced before or after stripping leading separators. -/
theorem normalize_withLast {last : Name} (hlast : last.isCompound = false) (written : Name) :
    (written.withLast last).normalize = written.normalize.withLast last := by
  obtain ⟨leading, hwritten, hleading⟩ := exists_leading written
  by_cases hmem : separator ∈ written.normalize.toList
  · obtain ⟨before, old, hsplit, hold⟩ := Text.exists_split_last hmem
    have hwhole : written.toList = (leading ++ before) ++ separator :: old := by
      rw [hwritten, hsplit, List.append_assoc]
    have hreplaced :
        (written.normalize.withLast last).toList = before ++ separator :: last.toList :=
      toList_withLast hsplit hold last
    -- The separators in front of the namespace are stripped before and after alike.
    refine normalize_of_leading leading ?_ hleading (normalize_eq_self ?_)
    · rw [toList_withLast hwhole hold last, hreplaced, List.append_assoc]
    · intro rest hrest
      rw [hreplaced] at hrest
      cases before with
      | nil => exact normalize_ne_cons written old hsplit
      | cons c before =>
          obtain ⟨rfl, -⟩ := List.cons.inj hrest
          exact normalize_ne_cons written _ hsplit
  · have hsimple : written.normalize.isCompound = false := isCompound_eq_false_iff.2 hmem
    rw [withLast_of_simple hsimple]
    rcases List.eq_nil_or_concat' leading with rfl | ⟨front, c, rfl⟩
    · have hplain : written.isCompound = false := by
        rw [isCompound_eq_false_iff, hwritten]
        exact hmem
      rw [withLast_of_simple hplain, (parts_of_simple hlast).1]
    · -- All separators stand in front; the last of them is the one before the last segment.
      obtain rfl : c = separator := isSeparator_iff.1 (hleading c (by simp))
      have hwhole : written.toList = front ++ separator :: written.normalize.toList := by
        rw [hwritten]
        simp
      refine normalize_of_leading (front ++ [separator]) ?_ hleading
        (parts_of_simple hlast).1
      rw [toList_withLast hwhole hmem last]
      simp

theorem space_withLast {last : Name} (hlast : last.isCompound = false) (name : Name) :
    (name.withLast last).space = name.space := by
  have hnormal := normalize_withLast hlast name
  rcases parts_cases name with ⟨hfree, hspace, -⟩ | ⟨before, old, hsplit, hold, -, hspace, -⟩
  · rw [← space_normalize, hnormal, withLast_of_simple (isCompound_eq_false_iff.2 hfree), hspace,
      (parts_of_simple hlast).2.1]
  · have hreplaced := toList_withLast hsplit hold last
    rw [← hnormal] at hreplaced
    rw [(parts_of_split hreplaced (isCompound_eq_false_iff.1 hlast)).1, hspace]

theorem short_withLast {last : Name} (hlast : last.isCompound = false) (name : Name) :
    (name.withLast last).short = last := by
  have hnormal := normalize_withLast hlast name
  rcases parts_cases name with ⟨hfree, -, -⟩ | ⟨before, old, hsplit, hold, -, -, -⟩
  · rw [← short_normalize, hnormal, withLast_of_simple (isCompound_eq_false_iff.2 hfree),
      (parts_of_simple hlast).2.2]
  · have hreplaced := toList_withLast hsplit hold last
    rw [← hnormal] at hreplaced
    rw [(parts_of_split hreplaced (isCompound_eq_false_iff.1 hlast)).2]
    simp

/-- A name of the same namespace is reached by taking over its last segment. -/
theorem key_withLast_short {name target : Name} (hspace : target.space.key = name.space.key) :
    (name.withLast target.short).key = target.key := by
  have hshort := isCompound_short target
  rw [key_eq_iff, space_withLast hshort, short_withLast hshort]
  exact ⟨hspace.symm, rfl⟩

/-- Names with one key still have one key when both get the same last segment. -/
theorem key_withLast_congr {a b last : Name} (hlast : last.isCompound = false)
    (hkey : a.key = b.key) : (a.withLast last).key = (b.withLast last).key := by
  rw [key_eq_iff, space_withLast hlast, space_withLast hlast, short_withLast hlast,
    short_withLast hlast]
  exact ⟨(key_eq_iff.1 hkey).1, rfl⟩

/-! ## Names put together -/

/-- Two names of one namespace differ in their last segments only. -/
theorem qualify_eq_withLast {short old : Name} (hold : old.isCompound = false) (space : Name) :
    qualify space short = (qualify space old).withLast short := by
  rw [← qualify_withLast, withLast_of_simple hold]

theorem short_qualify {short : Name} (hshort : short.isCompound = false) (space : Name) :
    (qualify space short).short = short := by
  rw [qualify_eq_withLast hshort, short_withLast hshort]

theorem toList_normalize_join (a rest : Name) :
    (a ++ String.singleton separator ++ rest).normalize.toList =
      if a.normalize = "" then rest.normalize.toList
      else a.normalize.toList ++ separator :: rest.toList := by
  obtain ⟨leading, ha, hleading⟩ := exists_leading a
  have hsplit : (a ++ String.singleton separator ++ rest).toList =
      leading ++ (a.normalize.toList ++ separator :: rest.toList) := by
    rw [String.toList_append, String.toList_append, ha]
    simp
  -- If nothing but separators stands in front, those of the rest are leading ones, too.
  rw [toList_normalize, hsplit, List.dropWhile_append_of_pos hleading]
  split
  case isTrue hempty => simp [hempty, toList_normalize, isSeparator]
  case isFalse hempty =>
    cases hchars : a.normalize.toList with
    | nil => exact absurd (String.toList_eq_nil_iff.1 hchars) hempty
    | cons c cs =>
        have hc : isSeparator c = false := by
          rw [← Bool.not_eq_true, isSeparator_iff]
          rintro rfl
          exact normalize_ne_cons a cs hchars
        simp [hc]

theorem toList_trim_subset (space : Name) :
    (Text.trim isSeparator space).toList ⊆ space.toList := by
  intro c hc
  rw [Text.trim, Text.trimEnd, String.toList_ofList] at hc
  have hnormal : c ∈ space.normalize.toList := (List.rdropWhile_prefix isSeparator _).subset hc
  rw [toList_normalize] at hnormal
  exact (List.dropWhile_suffix _).subset hnormal

theorem normalize_trim (space : Name) :
    Name.normalize (Text.trim isSeparator space) = Text.trim isSeparator space := by
  apply normalize_eq_self
  intro rest hrest
  have htrimmed : (Text.trim isSeparator space).toList <+: space.normalize.toList := by
    rw [Text.trim, Text.trimEnd, String.toList_ofList]
    exact List.rdropWhile_prefix isSeparator _
  obtain ⟨tail, htail⟩ := htrimmed
  rw [hrest] at htail
  exact normalize_ne_cons space _ htail.symm

theorem qualify_eq_ite (space short : Name) :
    qualify space short =
      if Text.trim isSeparator space = "" then short
      else Text.trim isSeparator space ++ String.singleton separator ++ short := by
  rw [qualify, Text.trim, ← normalize]
  by_cases hempty : Text.trimEnd isSeparator space.normalize = ""
  · rw [if_pos hempty, hempty]
    rfl
  · rw [if_neg hempty, if_neg (by simpa using hempty)]

/-- In a namespace that is more than separators, a name follows it and a separator. -/
theorem qualify_of_trim {space : Name} (hspace : Text.trim isSeparator space ≠ "") (short : Name) :
    qualify space short = Text.trim isSeparator space ++ String.singleton separator ++ short := by
  rw [qualify_eq_ite, if_neg hspace]

/-- A name may be continued after a separator: of what stands before only the key matters. -/
theorem key_join_congr {a b : Name} (hkey : a.key = b.key) (rest : Name) :
    (a ++ String.singleton separator ++ rest).key =
      (b ++ String.singleton separator ++ rest).key := by
  rw [key_inj] at hkey ⊢
  have hempty : a.normalize = "" ↔ b.normalize = "" := by
    rw [← String.toList_eq_nil_iff, ← String.toList_eq_nil_iff, ← Text.lowerFrom_eq_nil_iff, hkey,
      Text.lowerFrom_eq_nil_iff]
  rw [toList_normalize_join, toList_normalize_join]
  by_cases ha : a.normalize = ""
  · rw [if_pos ha, if_pos (hempty.1 ha)]
  · rw [if_neg ha, if_neg (mt hempty.2 ha), Text.lowerFrom_append_separator,
      Text.lowerFrom_append_separator, hkey]

end Name

end Rechristen
