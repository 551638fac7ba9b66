import Rechristen.Policy.Catalog
import Rechristen.Proofs.Name.Key

/-!
# Policies make short names of short names

A naming rule puts words in front of a name or behind it, or takes some away.  As long as the words
have no separators, neither has the new name, and something is left of a name that was not empty.
The words of the catalog have none, unless the technology chosen for repositories has one.
-/

namespace Rechristen

/-! ## Parts of names -/

namespace Name

theorem isCompound_append (a b : Name) :
    isCompound (a ++ b) = (a.isCompound || b.isCompound) := by
  simp [isCompound]

theorem isCompound_of_subset {a b : Name} (hsubset : a.toList ⊆ b.toList)
    (hb : b.isCompound = false) : a.isCompound = false := by
  simp only [isCompound, List.contains_eq_mem, decide_eq_false_iff_not] at hb ⊢
  exact fun hmem => hb (hsubset hmem)

theorem isCompound_dropEnd {name : Name} (hname : name.isCompound = false) (n : Nat) :
    isCompound (Text.dropEnd name n) = false := by
  refine isCompound_of_subset ?_ hname
  rw [Text.dropEnd, String.toList_ofList]
  exact List.take_subset _ _

theorem isCompound_dropStart {name : Name} (hname : name.isCompound = false) (n : Nat) :
    isCompound (Text.dropStart name n) = false := by
  refine isCompound_of_subset ?_ hname
  rw [Text.dropStart, String.toList_ofList]
  exact List.drop_subset _ _

end Name

/-! ## Rules -/

/-- What a rule makes of a name without separators has none, and what it makes of a name that is not
empty is not empty. -/
def KeepsShort (f : String → Option String) : Prop :=
  ∀ name new, f name = some new → Name.isCompound name = false →
    Name.isCompound new = false ∧ (name ≠ "" → new ≠ "")

theorem append_ne_empty_right {a b : String} (hb : b ≠ "") : a ++ b ≠ "" := by
  simp [hb]

theorem append_ne_empty_left {a b : String} (ha : a ≠ "") : a ++ b ≠ "" := by
  simp [ha]

namespace EndingTable

/-- The endings that names get have no separators. -/
def Plain (t : EndingTable) : Prop :=
  (∀ r ∈ t.replacements, Name.isCompound r.new = false) ∧
    ∀ ending ∈ t.fallback, Name.isCompound ending = false

theorem keepsShort_on? {r : Replacement} (hr : Name.isCompound r.new = false) :
    KeepsShort r.on? := by
  intro name new hnew hname
  have hstem : Name.isCompound (if r.old.isEmpty then "" else Text.dropEnd name r.old.length) =
      false := by
    split
    · rfl
    · exact Name.isCompound_dropEnd hname _
  unfold Replacement.on? at hnew
  dsimp only at hnew
  generalize (if r.old.isEmpty then "" else Text.dropEnd name r.old.length) = stem at hnew hstem
  split at hnew
  case isFalse => cases hnew
  case isTrue =>
    split at hnew
    case isTrue => cases hnew
    case isFalse hempty =>
      cases hnew
      refine ⟨?_, fun _ => by simpa using hempty⟩
      rw [Name.isCompound_append, hstem, hr]
      rfl

theorem keepsShort_step? {t : EndingTable} (ht : t.Plain) : KeepsShort t.step? := by
  intro name new hnew hname
  unfold step? at hnew
  split at hnew
  case h_1 replaced hreplaced =>
    cases hnew
    obtain ⟨r, hr, hon⟩ := List.exists_of_findSome?_eq_some hreplaced
    exact keepsShort_on? (ht.1 r hr) name _ hon hname
  case h_2 =>
    split at hnew
    case h_2 => cases hnew
    case h_1 ending hending =>
      split at hnew
      case isTrue => cases hnew
      case isFalse =>
        cases hnew
        refine ⟨?_, append_ne_empty_left⟩
        rw [Name.isCompound_append, hname, ht.2 ending hending]
        rfl

/-- By induction on the number of steps: each of them keeps the name short. -/
theorem settle_short {t : EndingTable} (ht : t.Plain) (limit : Nat) (seen : Std.TreeSet String)
    {name : String} (hname : Name.isCompound name = false) :
    Name.isCompound (t.settle limit seen name) = false ∧
      (name ≠ "" → t.settle limit seen name ≠ "") := by
  induction limit generalizing seen name with
  | zero => exact ⟨hname, id⟩
  | succ limit ih =>
      rw [settle]
      split
      case h_1 => exact ⟨hname, id⟩
      case h_2 next hnext =>
        obtain ⟨hsimple, hnonempty⟩ := keepsShort_step? ht name next hnext hname
        split
        · exact ⟨hname, id⟩
        · obtain ⟨hsettled, hleft⟩ := ih (seen.insert next) hsimple
          exact ⟨hsettled, fun h => hleft (hnonempty h)⟩

theorem keepsShort_transform {t : EndingTable} (ht : t.Plain) : KeepsShort t.transform := by
  intro name new hnew hname
  unfold transform at hnew
  dsimp only at hnew
  split at hnew
  · cases hnew
  · cases hnew
    exact settle_short ht _ _ hname

end EndingTable

/-- An ending is never the whole name when it is dropped, so something is left. -/
theorem dropAll_ne_empty (ending : String) {name : String} (hname : name ≠ "") :
    dropAll ending name ≠ "" := by
  fun_induction dropAll ending name with
  | case1 name hends ih =>
      obtain ⟨hsuffix, hwhole, -, hlength⟩ := hends
      refine ih fun hempty => hwhole ?_
      have hchars : name.toList.take (name.toList.length - ending.length) = [] := by
        rw [← String.toList_ofList (l := List.take _ _)]
        exact congrArg String.toList hempty
      have hshort : name.toList.length ≤ ending.toList.length := by
        rcases List.take_eq_nil_iff.1 hchars with hzero | hnil
        · rw [← String.length_toList] at hzero
          omega
        · simp [hnil]
      have hsuffix : ending.toList <:+ name.toList := by
        simpa [Text.ends] using hsuffix
      exact (String.toList_inj.1 (hsuffix.eq_of_length_le hshort)).symm
  | case2 name hends => exact hname

theorem isCompound_dropAll (ending : String) {name : String}
    (hname : Name.isCompound name = false) :
    Name.isCompound (dropAll ending name) = false := by
  fun_induction dropAll ending name with
  | case1 name hends ih => exact ih (Name.isCompound_dropEnd hname _)
  | case2 name hends => exact hname

namespace Query

theorem agreed_short : ∀ pair ∈ agreed, Name.isCompound pair.2 = false ∧ pair.2 ≠ "" := by
  decide +kernel

theorem verbs_short : ∀ verb ∈ verbs, Name.isCompound verb.2 = false := by
  decide +kernel

theorem isCompound_subject {verb name subject : String} (hname : Name.isCompound name = false)
    (hsubject : subject? verb name = some subject) : Name.isCompound subject = false := by
  have hmiddle : Name.isCompound (Text.dropEnd (Text.dropStart name verb.length) 5) = false :=
    Name.isCompound_dropEnd (Name.isCompound_dropStart hname _) _
  unfold subject? at hsubject
  generalize Text.dropEnd (Text.dropStart name verb.length) 5 = middle at hsubject hmiddle
  split at hsubject
  case isFalse => cases hsubject
  case isTrue =>
    dsimp only at hsubject
    split at hsubject
    · rwa [← Option.some.inj hsubject]
    · cases hsubject

theorem keepsShort_transform : KeepsShort transform := by
  intro name new hnew hname
  unfold transform at hnew
  split at hnew
  case isTrue => cases hnew
  case isFalse =>
    split at hnew
    case h_1 agreedName hagreed =>
      obtain rfl := Option.some.inj hnew
      obtain ⟨before, after, hagreed, -⟩ := List.lookup_eq_some_iff.1 hagreed
      obtain ⟨hsimple, hnonempty⟩ := agreed_short (name, agreedName) (by rw [hagreed]; simp)
      exact ⟨hsimple, fun _ => hnonempty⟩
    case h_2 =>
      split at hnew
      case h_1 asked hasked =>
        obtain ⟨verb, hverb, hwhole⟩ := List.exists_of_findSome?_eq_some hasked
        obtain ⟨subject, hsubject, hasked⟩ := Option.map_eq_some_iff.1 hwhole
        rw [← Option.some.inj hnew, ← hasked]
        refine ⟨?_, fun _ => append_ne_empty_right (by decide)⟩
        rw [Name.isCompound_append, Name.isCompound_append, Name.isCompound_append,
          isCompound_subject hname hsubject, verbs_short verb hverb]
        decide
      case h_2 =>
        cases hnew
        refine ⟨?_, fun _ => append_ne_empty_left (by decide)⟩
        rw [Name.isCompound_append, hname]
        decide

end Query

namespace Rule

/-- The words that a rule puts into names have no separators.  Of a rule that is not known by name
this is asked as it shows in the names. -/
def Plain : Rule → Prop
  | ending word => Name.isCompound word = false
  | beginning word => Name.isCompound word = false
  | endings table _ => table.Plain
  | valueObject => True
  | repository technology _ => Name.isCompound technology = false
  | query => True
  | custom change => KeepsShort change

theorem Plain.keepsShort {rule : Rule} (hrule : rule.Plain) : KeepsShort rule.transform := by
  intro name new hnew hname
  cases rule with
  | ending word =>
      simp only [transform] at hnew
      split at hnew
      · cases hnew
      · cases hnew
        refine ⟨?_, append_ne_empty_left⟩
        rw [Name.isCompound_append, hname, hrule]
        rfl
  | beginning word =>
      simp only [transform] at hnew
      split at hnew
      · cases hnew
      · cases hnew
        refine ⟨?_, append_ne_empty_right⟩
        rw [Name.isCompound_append, hname, hrule]
        rfl
  | endings table exempt =>
      simp only [transform] at hnew
      split at hnew
      · cases hnew
      · exact EndingTable.keepsShort_transform hrule name new hnew hname
  | valueObject =>
      simp only [transform] at hnew
      split at hnew
      · cases hnew
      · cases hnew
        exact ⟨isCompound_dropAll "Value" hname, dropAll_ne_empty "Value"⟩
  | repository technology known =>
      simp only [transform] at hnew
      split at hnew
      · cases hnew
      · cases hnew
        refine ⟨?_, append_ne_empty_right⟩
        rw [Name.isCompound_append, hname, hrule]
        rfl
  | query => exact Query.keepsShort_transform name new hnew hname
  | custom change => exact hrule name new hnew hname

end Rule

/-! ## The catalog -/

namespace Policy

theorem plain_of_mem_catalogWith {technology : String}
    (htechnology : Name.isCompound technology = false) {p : Policy}
    (hp : p ∈ catalogWith technology) : p.rule.Plain := by
  have htable : ∀ {t : EndingTable}, (t.replacements.all fun r => !Name.isCompound r.new) →
      (t.fallback.all fun ending => !Name.isCompound ending) → t.Plain := by
    intro t hreplacements hfallback
    refine ⟨by simpa using hreplacements, ?_⟩
    intro ending hending
    rw [Option.mem_def.1 hending] at hfallback
    simpa using hfallback
  simp only [catalogWith, List.mem_cons, List.not_mem_nil, or_false] at hp
  rcases hp with rfl | rfl | rfl | rfl | rfl | rfl | rfl | rfl | rfl | rfl | rfl | rfl | rfl
  · rfl
  · rfl
  · rfl
  · rfl
  · trivial
  · exact htechnology
  · exact htable (by decide +kernel) (by decide +kernel)
  · trivial
  · exact htable (by decide +kernel) (by decide +kernel)
  · exact htable (by decide +kernel) (by decide +kernel)
  · exact htable (by decide +kernel) (by decide +kernel)
  · exact htable (by decide +kernel) (by decide +kernel)
  · exact htable (by decide +kernel) (by decide +kernel)

variable {p : Policy} (hp : p.rule.Plain)

include hp

/-- A declaration with a short name is given a short name. -/
theorem isShort_of_tryRename {d : Declaration} {place : Place} {new : String}
    (hd : d.shortName.IsShort) (hnew : p.tryRename d place = some new) : Name.IsShort new := by
  unfold tryRename at hnew
  split at hnew
  case isFalse => cases hnew
  case isTrue =>
    obtain ⟨htransform, -⟩ := Option.filter_eq_some_iff.1 hnew
    obtain ⟨hsimple, hnonempty⟩ := hp.keepsShort d.shortName new htransform hd.simple
    exact ⟨hnonempty hd.nonempty, hsimple⟩

/-- A reference without separators is respelled without separators. -/
theorem isCompound_of_renameReference {name new : String} (hname : Name.isCompound name = false)
    (hnew : p.renameReference name = some new) : Name.isCompound new = false := by
  unfold renameReference at hnew
  split at hnew
  case isFalse => cases hnew
  case isTrue =>
    obtain ⟨htransform, -⟩ := Option.filter_eq_some_iff.1 hnew
    exact (hp.keepsShort name new htransform hname).1

end Policy

end Rechristen
