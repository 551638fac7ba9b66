import Rechristen.Policy.Catalog
import Std.Data.TreeSet.Lemmas

/-!
# How rules treat names

A rule changes some names and is content with the others.  Which names it changes and what it makes
of them can be told, roughly, by how names begin and end: this is the *manner* of the rule
(`Rule.manner`).  All that is proved about names of several rules is derived from their manners, and
these can be compared by computing.

The names a rule gives are names it is content with (`Rule.Calm.content`).  For tables of endings
this is so because steps make names shorter, or lead to a name that no step is possible for.
-/

namespace Rechristen

/-! ## Beginnings and endings -/

namespace Text

variable {s a b start ending : String}

theorem ends_iff : ends s ending = true ↔ ending.toList <:+ s.toList :=
  List.isSuffixOf_iff_suffix

theorem begins_iff : begins s start = true ↔ start.toList <+: s.toList :=
  List.isPrefixOf_iff_prefix

theorem ends_append (s ending : String) : ends (s ++ ending) ending = true := by
  rw [ends_iff, String.toList_append]
  exact List.suffix_append _ _

theorem begins_append (start s : String) : begins (start ++ s) start = true := by
  rw [begins_iff, String.toList_append]
  exact List.prefix_append _ _

theorem ends_append_of_ends (s : String) (h : ends a ending = true) :
    ends (s ++ a) ending = true := by
  rw [ends_iff] at h ⊢
  rw [String.toList_append]
  exact h.trans (List.suffix_append _ _)

theorem begins_append_of_begins (h : begins s start = true) (a : String) :
    begins (s ++ a) start = true := by
  rw [begins_iff] at h ⊢
  rw [String.toList_append]
  exact h.trans (List.prefix_append _ _)

theorem ends_trans (hs : ends s a = true) (ha : ends a b = true) : ends s b = true := by
  rw [ends_iff] at hs ha ⊢
  exact ha.trans hs

theorem length_dropEnd (s : String) (n : Nat) : (dropEnd s n).length = s.length - n := by
  rw [dropEnd, String.length_ofList, List.length_take, String.length_toList]
  omega

theorem length_le_of_ends (h : ends s ending = true) : ending.length ≤ s.length := by
  rw [ends_iff] at h
  simpa only [String.length_toList] using h.length_le

/-- No text has both endings. -/
def Exclusive (a b : String) : Prop :=
  ends a b = false ∧ ends b a = false

instance (a b : String) : Decidable (Exclusive a b) :=
  inferInstanceAs (Decidable (_ ∧ _))

theorem Exclusive.not_ends (h : Exclusive a b) (ha : ends s a = true) : ends s b = false := by
  rw [Bool.eq_false_iff]
  intro hb
  rcases List.suffix_or_suffix_of_suffix (ends_iff.1 ha) (ends_iff.1 hb) with hab | hba
  · exact Bool.false_ne_true (h.2.symm.trans (ends_iff.2 hab))
  · exact Bool.false_ne_true (h.1.symm.trans (ends_iff.2 hba))

/-- In no text does the ending start inside the beginning. -/
def Clear (start ending : String) : Prop :=
  ∀ k < start.toList.length, (start.toList.drop k).isPrefixOf ending.toList = false

instance (start ending : String) : Decidable (Clear start ending) :=
  inferInstanceAs (Decidable (∀ k < _, _))

theorem Clear.begins_dropEnd (hclear : Clear start ending) (hstart : begins s start = true)
    (hending : ends s ending = true) : begins (dropEnd s ending.length) start = true := by
  obtain ⟨after, hafter⟩ := begins_iff.1 hstart
  obtain ⟨before, hbefore⟩ := ends_iff.1 hending
  have hdrop : (dropEnd s ending.length).toList = before := by
    rw [dropEnd, String.toList_ofList, ← hbefore, List.length_append, String.length_toList,
      Nat.add_sub_cancel, List.take_left]
  rw [begins_iff, hdrop]
  rcases List.append_eq_append_iff.1 (hafter.trans hbefore.symm) with
    ⟨as, hlong, -⟩ | ⟨bs, hshort, hcut⟩
  · rw [hlong]
    exact List.prefix_append _ _
  · -- What is left is a part of the beginning, so the ending starts inside it unless it is all.
    rcases Nat.lt_or_ge before.length start.toList.length with hlt | hge
    · have hinside := hclear before.length hlt
      rw [hshort, List.drop_left, hcut] at hinside
      exact absurd (List.isPrefixOf_iff_prefix.2 (List.prefix_append bs after)) (by simp [hinside])
    · have hlength := congrArg List.length hshort
      rw [List.length_append] at hlength
      have hnil : bs = [] := List.eq_nil_of_length_eq_zero (by omega)
      rewrite [hshort, hnil, List.append_nil]
      exact List.prefix_refl before

end Text

open Text (ends begins Exclusive Clear)

/-! ## Tables of endings -/

theorem Replacement.on?_eq_some {r : Replacement} {name new : String}
    (hon : r.on? name = some new) :
    ends name r.old = true ∧
      new = (if r.old.isEmpty then "" else Text.dropEnd name r.old.length) ++ r.new := by
  unfold Replacement.on? at hon
  split at hon
  case isFalse => cases hon
  case isTrue hends =>
    dsimp only at hon
    generalize (if r.old.isEmpty then "" else Text.dropEnd name r.old.length) = stem at hon ⊢
    split at hon
    · cases hon
    · exact ⟨hends, (Option.some.inj hon).symm⟩

namespace EndingTable

variable {t : EndingTable} {name new next : String}

theorem step?_cases (hstep : t.step? name = some next) :
    (∃ r ∈ t.replacements, r.on? name = some next) ∨
      ∃ ending, t.fallback = some ending ∧ ends name ending = false ∧ next = name ++ ending := by
  unfold step? at hstep
  split at hstep
  case h_1 replaced hreplaced =>
    obtain ⟨r, hr, hon⟩ := List.exists_of_findSome?_eq_some hreplaced
    exact Or.inl ⟨r, hr, hon.trans hstep⟩
  case h_2 =>
    split at hstep
    case h_2 => cases hstep
    case h_1 ending hending =>
      split at hstep
      case isTrue => cases hstep
      case isFalse hends =>
        exact Or.inr ⟨ending, hending, by simpa using hends, (Option.some.inj hstep).symm⟩

/-- Steps come to an end: each makes the name shorter, or there is none after it. -/
def Calm (t : EndingTable) : Prop :=
  ∀ name next, t.step? name = some next → next.length < name.length ∨ t.step? next = none

/-- By induction on the limit.  A name seen before is longer, or a step was possible for it; so no
name comes back. -/
theorem Calm.step?_settle (ht : t.Calm) {limit : Nat} {seen : Std.TreeSet String}
    (hlimit : name.length < limit)
    (hseen : ∀ old ∈ seen, name.length ≤ old.length ∧ (old = name ∨ t.step? old ≠ none)) :
    t.step? (t.settle limit seen name) = none := by
  induction limit generalizing seen name with
  | zero => omega
  | succ limit ih =>
      rw [settle]
      split
      case h_1 hstep => exact hstep
      case h_2 next hstep =>
        have hstepped : ∀ old ∈ seen, t.step? old ≠ none := by
          intro old hold
          rcases (hseen old hold).2 with rfl | hsome
          · simp [hstep]
          · exact hsome
        rcases ht name next hstep with hshorter | hlast
        · rw [if_neg fun hmem => absurd (hseen next hmem).1 (by omega)]
          refine ih (by omega) fun old hold => ?_
          rcases Std.TreeSet.mem_insert.1 hold with hnext | hold
          · obtain rfl := Std.LawfulEqCmp.eq_of_compare hnext
            exact ⟨Nat.le_refl _, Or.inl rfl⟩
          · have hlonger := (hseen old hold).1
            exact ⟨by omega, Or.inr (hstepped old hold)⟩
        · rw [if_neg fun hmem => hstepped next hmem hlast]
          cases limit with
          | zero => exact hlast
          | succ limit => rwa [settle, hlast]

theorem step?_of_settle_ne {limit : Nat} {seen : Std.TreeSet String}
    (hsettle : t.settle limit seen name ≠ name) :
    (∃ next, t.step? name = some next) ∧
      ∃ before, t.step? before = some (t.settle limit seen name) := by
  induction limit generalizing seen name with
  | zero => exact absurd rfl hsettle
  | succ limit ih =>
      rw [settle] at hsettle ⊢
      split at hsettle
      case h_1 => exact absurd rfl hsettle
      case h_2 next hstep =>
        refine ⟨⟨next, hstep⟩, ?_⟩
        split at hsettle
        case isTrue => exact absurd rfl hsettle
        case isFalse hfresh =>
          simp only [if_neg hfresh]
          by_cases hsame : t.settle limit (seen.insert next) next = next
          · exact ⟨name, by rw [hsame, hstep]⟩
          · exact (ih hsame).2

theorem transform_eq_some (htransform : t.transform name = some new) :
    t.settle (stepLimit name) {name} name = new ∧ new ≠ name := by
  unfold transform at htransform
  dsimp only at htransform
  split at htransform
  · cases htransform
  case isFalse hne =>
    obtain rfl := Option.some.inj htransform
    exact ⟨rfl, hne⟩

theorem Calm.step?_settled (ht : t.Calm) (name : String) :
    t.step? (t.settle (stepLimit name) {name} name) = none := by
  refine ht.step?_settle ?_ ?_
  · have hpositive : 0 < Nat.pow 2 64 := Nat.pow_pos (by omega)
    rw [stepLimit]
    omega
  · intro old hold
    rcases Std.TreeSet.mem_insert.1 hold with hname | hnone
    · obtain rfl := Std.LawfulEqCmp.eq_of_compare hname
      exact ⟨Nat.le_refl _, Or.inl rfl⟩
    · simp at hnone

theorem Calm.transform_eq_none_iff (ht : t.Calm) :
    t.transform name = none ↔ t.step? name = none := by
  constructor
  · intro htransform
    have hsettled := ht.step?_settled name
    unfold transform at htransform
    dsimp only at htransform
    split at htransform
    case isTrue hsame => rwa [hsame] at hsettled
    case isFalse => cases htransform
  · intro hstep
    cases htransform : t.transform name with
    | none => rfl
    | some new =>
        obtain ⟨rfl, hne⟩ := transform_eq_some htransform
        obtain ⟨⟨next, hnext⟩, -⟩ := step?_of_settle_ne hne
        rw [hstep] at hnext
        cases hnext

/-- Every ending gets shorter. -/
def Shrinking (t : EndingTable) : Prop :=
  t.fallback = none ∧ ∀ r ∈ t.replacements, r.new.length < r.old.length

instance (t : EndingTable) : Decidable t.Shrinking :=
  inferInstanceAs (Decidable (_ ∧ _))

theorem Shrinking.length_lt (ht : t.Shrinking) (hstep : t.step? name = some next) :
    next.length < name.length := by
  rcases step?_cases hstep with ⟨r, hr, hon⟩ | ⟨ending, hending, -⟩
  · obtain ⟨hends, rfl⟩ := Replacement.on?_eq_some hon
    have hlonger := ht.2 r hr
    have hfits := Text.length_le_of_ends hends
    have hold : r.old.isEmpty = false := by
      rw [Bool.eq_false_iff]
      intro hempty
      rw [String.isEmpty_iff.1 hempty] at hlonger
      simp at hlonger
    rw [hold, if_neg Bool.false_ne_true, String.length_append, Text.length_dropEnd]
    omega
  · rw [ht.1] at hending
    cases hending

theorem Shrinking.calm (ht : t.Shrinking) : t.Calm :=
  fun _ _ hstep => Or.inl (ht.length_lt hstep)

/-- All names come to have one ending, which none of the endings replaced goes together with. -/
def Final (t : EndingTable) (ending : String) : Prop :=
  t.fallback = some ending ∧ ∀ r ∈ t.replacements, r.new = ending ∧ Exclusive ending r.old

instance (t : EndingTable) (ending : String) : Decidable (t.Final ending) :=
  inferInstanceAs (Decidable (_ ∧ _))

variable {ending : String}

theorem Final.step?_eq_none_iff (ht : t.Final ending) :
    t.step? name = none ↔ ends name ending = true := by
  constructor
  · intro hstep
    rw [← Bool.not_eq_false]
    intro hends
    simp only [step?, ht.1, hends, Bool.false_eq_true, if_false] at hstep
    split at hstep
    · cases hstep
    · cases hstep
  · intro hends
    cases hstep : t.step? name with
    | none => rfl
    | some next =>
        rcases step?_cases hstep with ⟨r, hr, hon⟩ | ⟨other, hother, hnot, -⟩
        · have hold := (Replacement.on?_eq_some hon).1
          rw [(ht.2 r hr).2.not_ends hends] at hold
          cases hold
        · rw [ht.1, Option.some.injEq] at hother
          rw [← hother, hends] at hnot
          cases hnot

/-- The endings that names get. -/
def newEndings (t : EndingTable) : List String :=
  t.replacements.map Replacement.new ++ t.fallback.toList

theorem ends_of_step? (hall : ∀ e ∈ t.newEndings, e = ending) (hstep : t.step? name = some next) :
    ends next ending = true := by
  rcases step?_cases hstep with ⟨r, hr, hon⟩ | ⟨other, hother, -, rfl⟩
  · rw [(Replacement.on?_eq_some hon).2, hall r.new (by
      rw [newEndings, List.mem_append]
      exact Or.inl (List.mem_map_of_mem hr))]
    exact Text.ends_append _ _
  · rw [hall other (by simp [newEndings, hother])]
    exact Text.ends_append _ _

theorem Final.calm (ht : t.Final ending) : t.Calm := by
  intro name next hstep
  refine Or.inr (ht.step?_eq_none_iff.2 (ends_of_step? (fun e he => ?_) hstep))
  rw [newEndings, ht.1, List.mem_append] at he
  rcases he with he | he
  · obtain ⟨r, hr, rfl⟩ := List.mem_map.1 he
    exact (ht.2 r hr).1
  · simpa using he

variable {start : String}

/-- None of the endings replaced reaches into a beginning. -/
def ClearOf (t : EndingTable) (start : String) : Prop :=
  ∀ r ∈ t.replacements, r.old.isEmpty = false ∧ Clear start r.old

instance (t : EndingTable) (start : String) : Decidable (t.ClearOf start) :=
  inferInstanceAs (Decidable (∀ r ∈ t.replacements, _))

theorem ClearOf.begins_step? (ht : t.ClearOf start) (hname : begins name start = true)
    (hstep : t.step? name = some next) : begins next start = true := by
  rcases step?_cases hstep with ⟨r, hr, hon⟩ | ⟨other, -, -, rfl⟩
  · obtain ⟨hends, rfl⟩ := Replacement.on?_eq_some hon
    obtain ⟨hold, hclear⟩ := ht r hr
    rw [hold, if_neg Bool.false_ne_true]
    exact Text.begins_append_of_begins (hclear.begins_dropEnd hname hends) _
  · exact Text.begins_append_of_begins hname _

/-- By induction on the number of steps. -/
theorem ClearOf.begins_settle (ht : t.ClearOf start) (limit : Nat) (seen : Std.TreeSet String)
    (hname : begins name start = true) : begins (t.settle limit seen name) start = true := by
  induction limit generalizing seen name with
  | zero => exact hname
  | succ limit ih =>
      rw [settle]
      split
      case h_1 => exact hname
      case h_2 next hstep =>
        split
        · exact hname
        · exact ih _ (ht.begins_step? hname hstep)

end EndingTable

/-! ## Endings dropped as often as they stand there -/

section DropAll

variable {ending start name : String}

theorem ends_of_dropAll_ne (hdrop : dropAll ending name ≠ name) : ends name ending = true := by
  rw [dropAll] at hdrop
  split at hdrop
  case isTrue h => exact h.1
  case isFalse => exact absurd rfl hdrop

theorem dropAll_dropAll (ending name : String) :
    dropAll ending (dropAll ending name) = dropAll ending name := by
  fun_induction dropAll ending name with
  | case1 name _ ih => exact ih
  | case2 name hends => rw [dropAll, if_neg hends]

theorem begins_dropAll (hclear : Clear start ending) (hname : begins name start = true) :
    begins (dropAll ending name) start = true := by
  fun_induction dropAll ending name with
  | case1 name hends ih => exact ih (hclear.begins_dropEnd hname hends.1)
  | case2 name _ => exact hname

end DropAll

/-! ## Queries -/

namespace Query

variable {name new : String}

theorem agreed_named :
    ∀ pair ∈ agreed, begins pair.2 "Get" = true ∧ ends pair.2 "Query" = true := by
  decide +kernel

theorem transform_eq_some (htransform : transform name = some new) :
    ends name "Query" = true ∧ begins new "Get" = true ∧ ends new "Query" = true := by
  unfold transform at htransform
  split at htransform
  case isTrue => cases htransform
  case isFalse hcond =>
    have hname : ends name "Query" = true := by
      simp only [Bool.or_eq_true, Bool.not_eq_true', not_or] at hcond
      simpa using hcond.1
    refine ⟨hname, ?_⟩
    split at htransform
    case h_1 agreedName hagreed =>
      obtain rfl := Option.some.inj htransform
      obtain ⟨before, after, hpairs, -⟩ := List.lookup_eq_some_iff.1 hagreed
      exact agreed_named (name, agreedName) (by rw [hpairs]; simp)
    case h_2 =>
      split at htransform
      case h_1 asked hasked =>
        obtain rfl := Option.some.inj htransform
        obtain ⟨verb, -, hverb⟩ := List.exists_of_findSome?_eq_some hasked
        obtain ⟨subject, -, rfl⟩ := Option.map_eq_some_iff.1 hverb
        constructor
        · rw [String.append_assoc, String.append_assoc]
          exact Text.begins_append _ _
        · exact Text.ends_append _ _
      case h_2 =>
        obtain rfl := Option.some.inj htransform
        exact ⟨Text.begins_append _ _, Text.ends_append_of_ends _ hname⟩

end Query

/-! ## Rules -/

namespace Rule

variable {rule : Rule} {name new word : String}

/-- The rule asks that a name be changed to another one. -/
def Changes (rule : Rule) (name new : String) : Prop :=
  rule.transform name = some new ∧ new ≠ name

/-- The rule asks for no other name. -/
def Content (rule : Rule) (name : String) : Prop :=
  ∀ new, ¬rule.Changes name new

/-- What a rule gives needs no further change. -/
def Calm : Rule → Prop
  | endings table _ => table.Calm
  | repository technology known => technology ∈ known
  | custom change =>
    ∀ name new, change name = some new → new ≠ "" ∧ new ≠ name ∧ change new = none
  | _ => True

theorem ends_of_content_ending (hcontent : (ending word).Content name) : ends name word = true := by
  rw [← Bool.not_eq_false]
  intro hends
  have hsame : name ++ word = name := by
    refine Classical.byContradiction fun hne => hcontent (name ++ word) ⟨?_, hne⟩
    simp [transform, hends]
  rw [← hsame, Text.ends_append] at hends
  cases hends

theorem content_ending (hends : ends name word = true) : (ending word).Content name := by
  rintro new ⟨htransform, -⟩
  simp [transform, hends] at htransform

theorem begins_of_content_beginning (hcontent : (beginning word).Content name) :
    begins name word = true := by
  rw [← Bool.not_eq_false]
  intro hbegins
  have hsame : word ++ name = name := by
    refine Classical.byContradiction fun hne => hcontent (word ++ name) ⟨?_, hne⟩
    simp [transform, hbegins]
  rw [← hsame, Text.begins_append] at hbegins
  cases hbegins

theorem content_beginning (hbegins : begins name word = true) : (beginning word).Content name := by
  rintro new ⟨htransform, -⟩
  simp [transform, hbegins] at htransform

theorem Changes.eq_append (h : (ending word).Changes name new) : new = name ++ word := by
  obtain ⟨htransform, -⟩ := h
  simp only [transform] at htransform
  split at htransform
  · cases htransform
  · exact (Option.some.inj htransform).symm

theorem Changes.eq_beginning (h : (beginning word).Changes name new) : new = word ++ name := by
  obtain ⟨htransform, -⟩ := h
  simp only [transform] at htransform
  split at htransform
  · cases htransform
  · exact (Option.some.inj htransform).symm

theorem Changes.table {table : EndingTable} {exempt : List String}
    (h : (endings table exempt).Changes name new) : table.transform name = some new := by
  obtain ⟨htransform, -⟩ := h
  simp only [transform] at htransform
  split at htransform
  · cases htransform
  · exact htransform

theorem Changes.eq_dropAll (h : valueObject.Changes name new) : new = dropAll "Value" name := by
  obtain ⟨htransform, -⟩ := h
  simp only [transform] at htransform
  split at htransform
  · cases htransform
  · exact (Option.some.inj htransform).symm

theorem Changes.repository_eq {technology : String} {known : List String}
    (h : (repository technology known).Changes name new) :
    ends name "Repository" = true ∧ new = technology ++ name := by
  obtain ⟨htransform, -⟩ := h
  simp only [transform] at htransform
  split at htransform
  · cases htransform
  case isFalse hcond =>
    simp only [Bool.or_eq_true, Bool.not_eq_true', not_or] at hcond
    exact ⟨by simpa using hcond.1, (Option.some.inj htransform).symm⟩

/-- A rule is content with the names it gives. -/
theorem Calm.content (hrule : rule.Calm) (hchanges : rule.Changes name new) : rule.Content new := by
  cases rule with
  | ending word =>
      rw [hchanges.eq_append]
      exact content_ending (Text.ends_append _ _)
  | beginning word =>
      rw [hchanges.eq_beginning]
      exact content_beginning (Text.begins_append _ _)
  | endings table exempt =>
      have hstep : table.step? new = none := by
        rw [← (EndingTable.transform_eq_some hchanges.table).1]
        exact EndingTable.Calm.step?_settled hrule name
      intro other hother
      have hnone := (EndingTable.Calm.transform_eq_none_iff hrule).2 hstep
      rw [hother.table] at hnone
      cases hnone
  | valueObject =>
      obtain rfl := hchanges.eq_dropAll
      intro other hother
      exact hother.2 (hother.eq_dropAll.trans (dropAll_dropAll _ _))
  | repository technology known =>
      obtain ⟨-, rfl⟩ := hchanges.repository_eq
      rintro other ⟨htransform, -⟩
      have hknown : known.any (begins (technology ++ name)) = true :=
        List.any_eq_true.2 ⟨technology, hrule, Text.begins_append _ _⟩
      simp [transform, hknown] at htransform
  | query =>
      obtain ⟨-, hget, -⟩ := Query.transform_eq_some hchanges.1
      rintro other ⟨htransform, -⟩
      simp [transform, Query.transform, hget] at htransform
  | custom change =>
      obtain ⟨-, -, hnone⟩ := hrule name new hchanges.1
      rintro other ⟨htransform, -⟩
      simp [transform, hnone] at htransform

end Rule

/-! ## Manners -/

/-- What can be told of a rule by how names begin and end.  What is absent cannot be told. -/
structure Manner where
  /-- The names it changes have one of these endings. -/
  changes : Option (List String) := none
  /-- The names it gives have this ending. -/
  gives : Option String := none
  /-- It is content with the names that have this ending, and with no others. -/
  asks : Option String := none
  /-- It is content with the names that have this beginning, and with no others. -/
  starts : Option String := none
  /-- The names it gives have this beginning if the names it changes have it. -/
  keeps : String → Bool := fun _ => false

/-- The one ending that names get, if there is only one. -/
def EndingTable.gives? (t : EndingTable) : Option String :=
  t.newEndings.head?.filter fun ending => t.newEndings.all (· = ending)

namespace Rule

/-- The manner of a rule. -/
def manner : Rule → Manner
  | ending word => { gives := some word, asks := some word, keeps := fun _ => true }
  | beginning word => { starts := some word }
  | endings table exempt =>
    { changes :=
        if table.fallback = none then some (table.replacements.map Replacement.old) else none
      gives := table.gives?
      asks := table.fallback.filter fun ending => exempt = [] ∧ table.Final ending
      keeps := fun start => table.ClearOf start }
  | valueObject => { changes := some ["Value"], keeps := fun start => Clear start "Value" }
  | repository _ _ => { changes := some ["Repository"], gives := some "Repository" }
  | query => { changes := some ["Query"], gives := some "Query" }
  | custom _ => {}

variable {rule other : Rule} {name new word start : String}

theorem Changes.ends_old {words : List String} (hchanges : rule.Changes name new)
    (hwords : rule.manner.changes = some words) : ∃ word ∈ words, ends name word = true := by
  cases rule with
  | ending word => cases hwords
  | beginning word => cases hwords
  | endings table exempt =>
      simp only [manner] at hwords
      split at hwords
      case isFalse => cases hwords
      case isTrue hfallback =>
        obtain rfl := Option.some.inj hwords
        obtain ⟨rfl, hne⟩ := EndingTable.transform_eq_some hchanges.table
        obtain ⟨⟨next, hstep⟩, -⟩ := EndingTable.step?_of_settle_ne hne
        rcases EndingTable.step?_cases hstep with ⟨r, hr, hon⟩ | ⟨_, hsome, -⟩
        · exact ⟨r.old, List.mem_map_of_mem hr, (Replacement.on?_eq_some hon).1⟩
        · rw [hfallback] at hsome
          cases hsome
  | valueObject =>
      obtain rfl := Option.some.inj hwords
      obtain rfl := hchanges.eq_dropAll
      exact ⟨"Value", by simp, ends_of_dropAll_ne hchanges.2⟩
  | repository technology known =>
      obtain rfl := Option.some.inj hwords
      exact ⟨"Repository", by simp, hchanges.repository_eq.1⟩
  | query =>
      obtain rfl := Option.some.inj hwords
      exact ⟨"Query", by simp, (Query.transform_eq_some hchanges.1).1⟩
  | custom change => cases hwords

theorem Changes.ends_new (hchanges : rule.Changes name new)
    (hword : rule.manner.gives = some word) : ends new word = true := by
  cases rule with
  | ending _ =>
      obtain rfl := Option.some.inj hword
      rw [hchanges.eq_append]
      exact Text.ends_append _ _
  | beginning _ => cases hword
  | endings table exempt =>
      obtain ⟨-, hall⟩ := Option.filter_eq_some_iff.1 hword
      obtain ⟨rfl, hne⟩ := EndingTable.transform_eq_some hchanges.table
      obtain ⟨-, before, hstep⟩ := EndingTable.step?_of_settle_ne hne
      exact EndingTable.ends_of_step? (by simpa using hall) hstep
  | valueObject => cases hword
  | repository technology known =>
      obtain rfl := Option.some.inj hword
      obtain ⟨hends, rfl⟩ := hchanges.repository_eq
      exact Text.ends_append_of_ends _ hends
  | query =>
      obtain rfl := Option.some.inj hword
      exact (Query.transform_eq_some hchanges.1).2.2
  | custom change => cases hword

theorem content_iff_ends (hword : rule.manner.asks = some word) :
    rule.Content name ↔ ends name word = true := by
  cases rule with
  | ending _ =>
      obtain rfl := Option.some.inj hword
      exact ⟨ends_of_content_ending, content_ending⟩
  | endings table exempt =>
      obtain ⟨-, hboth⟩ := Option.filter_eq_some_iff.1 hword
      obtain ⟨rfl, hfinal⟩ : exempt = [] ∧ table.Final word := of_decide_eq_true hboth
      rw [← hfinal.step?_eq_none_iff, ← hfinal.calm.transform_eq_none_iff]
      constructor
      · intro hcontent
        cases htransform : table.transform name with
        | none => rfl
        | some new =>
            refine absurd ⟨?_, (EndingTable.transform_eq_some htransform).2⟩ (hcontent new)
            simpa [transform] using htransform
      · intro hnone new hchanges
        rw [hchanges.table] at hnone
        cases hnone
  | beginning _ => cases hword
  | valueObject => cases hword
  | repository _ _ => cases hword
  | query => cases hword
  | custom _ => cases hword

theorem content_iff_begins (hword : rule.manner.starts = some word) :
    rule.Content name ↔ begins name word = true := by
  cases rule with
  | beginning _ =>
      obtain rfl := Option.some.inj hword
      exact ⟨begins_of_content_beginning, content_beginning⟩
  | ending _ => cases hword
  | endings _ _ => cases hword
  | valueObject => cases hword
  | repository _ _ => cases hword
  | query => cases hword
  | custom _ => cases hword

theorem Changes.begins_new (hchanges : rule.Changes name new)
    (hkeeps : rule.manner.keeps start = true) (hname : begins name start = true) :
    begins new start = true := by
  cases rule with
  | ending word =>
      rw [hchanges.eq_append]
      exact Text.begins_append_of_begins hname _
  | endings table exempt =>
      have hclear : table.ClearOf start := of_decide_eq_true hkeeps
      rw [← (EndingTable.transform_eq_some hchanges.table).1]
      exact hclear.begins_settle _ _ hname
  | valueObject =>
      have hclear : Clear start "Value" := of_decide_eq_true hkeeps
      rw [hchanges.eq_dropAll]
      exact begins_dropAll hclear hname
  | beginning _ => cases hkeeps
  | repository _ _ => cases hkeeps
  | query => cases hkeeps
  | custom _ => cases hkeeps

end Rule

namespace Manner

/-- A rule of the second manner leaves alone what one of the first manner is content with: it gives
names that the first does not change or that have the ending asked for, it changes none that have
this ending, or it keeps the beginning. -/
def Respected (first second : Manner) : Prop :=
  (∃ given ∈ second.gives, (∃ words ∈ first.changes, ∀ word ∈ words, Exclusive given word) ∨
      ∃ word ∈ first.asks, ends given word = true) ∨
    (∃ word ∈ first.asks, ∃ words ∈ second.changes, ∀ old ∈ words, Exclusive word old) ∨
    ∃ start ∈ first.starts, second.keeps start = true

instance (first second : Manner) : Decidable (first.Respected second) :=
  inferInstanceAs (Decidable (_ ∨ _ ∨ _))

theorem Respected.content {first second : Rule} {name new : String}
    (h : first.manner.Respected second.manner) (hcontent : first.Content name)
    (hchanges : second.Changes name new) : first.Content new := by
  rcases h with ⟨given, hgiven, ⟨words, hwords, hapart⟩ | ⟨word, hword, hends⟩⟩ |
    ⟨word, hword, words, hwords, hapart⟩ | ⟨start, hstart, hkeeps⟩
  · intro other hother
    obtain ⟨word, hword, hends⟩ := hother.ends_old hwords
    rw [(hapart word hword).not_ends (hchanges.ends_new hgiven)] at hends
    cases hends
  · exact (Rule.content_iff_ends hword).2 (Text.ends_trans (hchanges.ends_new hgiven) hends)
  · obtain ⟨old, hold, hends⟩ := hchanges.ends_old hwords
    rw [(hapart old hold).not_ends ((Rule.content_iff_ends hword).1 hcontent)] at hends
    cases hends
  · exact (Rule.content_iff_begins hstart).2
      (hchanges.begins_new hkeeps ((Rule.content_iff_begins hstart).1 hcontent))

end Manner

end Rechristen
