import Rechristen.Proofs.Policy.ShortNames
import Rechristen.Proofs.Policy.Undoing

/-!
# A name is changed once

What a policy of the catalog makes of a name is a name with which the policy has nothing to do any
more.  This holds for all texts, whether or not they are names, and for every technology that
repositories can be given.

Two kinds of rules work in a loop: tables of endings replace one ending after the other, and value
objects drop theirs as often as it stands there.  The loops are also told without a limit and
without a measure (`EndingTable.Settles`, `Drops`), so that their coming to an end is a statement
and not a matter of how they are defined.
-/

namespace Rechristen

open Text (ends begins)

/-! ## Loops without a limit -/

/-- Steps are made as long as there is one and it leads to a name that was not seen. -/
inductive EndingTable.Settles (t : EndingTable) : Std.TreeSet String → String → String → Prop
  | stable {seen : Std.TreeSet String} {name : String} : t.step? name = none →
      Settles t seen name name
  | returned {seen : Std.TreeSet String} {name next : String} : t.step? name = some next →
      next ∈ seen → Settles t seen name name
  | step {seen : Std.TreeSet String} {name next settled : String} : t.step? name = some next →
      next ∉ seen → Settles t (seen.insert next) next settled → Settles t seen name settled

/-- The limit was not reached if the name that is left has no step. -/
theorem EndingTable.settles_of_step? {t : EndingTable} {limit : Nat} {seen : Std.TreeSet String}
    {name : String} (hstep : t.step? (t.settle limit seen name) = none) :
    t.Settles seen name (t.settle limit seen name) := by
  induction limit generalizing seen name with
  | zero => exact .stable hstep
  | succ limit ih =>
      rw [settle] at hstep ⊢
      split at hstep
      case h_1 hnone => exact .stable hnone
      case h_2 next hnext =>
        split at hstep
        case isTrue hseen =>
          rw [hnext] at hstep
          cases hstep
        case isFalse hfresh =>
          simp only [if_neg hfresh]
          exact .step hnext hfresh (ih hstep)

/-- The ending is dropped as long as it stands there and is not the whole name. -/
inductive Drops (ending : String) : String → String → Prop
  | done {name : String} : ¬(ends name ending = true ∧ name ≠ ending) → Drops ending name name
  | drop {name stem : String} : ends name ending = true → name ≠ ending →
      Drops ending (Text.dropEnd name ending.length) stem → Drops ending name stem

theorem drops_dropAll {ending : String} (hending : 0 < ending.length) (name : String) :
    Drops ending name (dropAll ending name) := by
  fun_induction dropAll ending name with
  | case1 name hends ih => exact .drop hends.1 hends.2.1 ih
  | case2 name hends =>
      refine .done fun hboth => hends ?_
      exact ⟨hboth.1, hboth.2, hending, Text.length_le_of_ends hboth.1⟩

/-! ## What is left is a name -/

namespace Text

theorem ne_empty_of_not_ends {s ending : String} (h : ends s ending = false) : ending ≠ "" := by
  rintro rfl
  have hsuffix : ends s "" = true := ends_iff.2 List.nil_suffix
  rw [hsuffix] at h
  cases h

theorem ne_empty_of_not_begins {s start : String} (h : begins s start = false) : start ≠ "" := by
  rintro rfl
  have hstart : begins s "" = true := begins_iff.2 List.nil_prefix
  rw [hstart] at h
  cases h

end Text

theorem Replacement.ne_empty_of_on? {r : Replacement} {name new : String}
    (hon : r.on? name = some new) : new ≠ "" := by
  unfold on? at hon
  split at hon
  case isFalse => cases hon
  case isTrue =>
    dsimp only at hon
    generalize (if r.old.isEmpty then "" else Text.dropEnd name r.old.length) ++ r.new = replaced
      at hon
    split at hon
    case isTrue => cases hon
    case isFalse hempty =>
      obtain rfl := Option.some.inj hon
      simpa using hempty

theorem EndingTable.ne_empty_of_step? {t : EndingTable} {name next : String}
    (hstep : t.step? name = some next) : next ≠ "" := by
  rcases step?_cases hstep with ⟨r, -, hon⟩ | ⟨ending, -, hends, rfl⟩
  · exact Replacement.ne_empty_of_on? hon
  · exact append_ne_empty_right (Text.ne_empty_of_not_ends hends)

namespace Rule

variable {rule : Rule} {name new : String}

/-- A name that a rule asks for is never the old one.  Only a repository could be given nothing, and
then it would have nothing to ask for: what it is given is known. -/
theorem Calm.ne_of_transform (hrule : rule.Calm) (hnew : rule.transform name = some new) :
    new ≠ name := by
  cases rule with
  | ending word =>
      simp only [transform] at hnew
      split at hnew
      case isTrue => cases hnew
      case isFalse hends =>
        obtain rfl := Option.some.inj hnew
        have hword : word ≠ "" := Text.ne_empty_of_not_ends (Bool.eq_false_iff.2 hends)
        simpa using hword
  | beginning word =>
      simp only [transform] at hnew
      split at hnew
      case isTrue => cases hnew
      case isFalse hbegins =>
        obtain rfl := Option.some.inj hnew
        have hword : word ≠ "" := Text.ne_empty_of_not_begins (Bool.eq_false_iff.2 hbegins)
        simpa using hword
  | endings table exempt =>
      simp only [transform] at hnew
      split at hnew
      · cases hnew
      · exact (EndingTable.transform_eq_some hnew).2
  | valueObject =>
      simp only [transform] at hnew
      split at hnew
      case isTrue => cases hnew
      case isFalse hstem =>
        obtain rfl := Option.some.inj hnew
        simp only [Bool.or_eq_true, decide_eq_true_eq, not_or] at hstem
        exact hstem.1
  | repository technology known =>
      simp only [transform] at hnew
      split at hnew
      case isTrue => cases hnew
      case isFalse hcond =>
        obtain rfl := Option.some.inj hnew
        simp only [Bool.or_eq_true, not_or, List.any_eq_true, not_exists, not_and] at hcond
        -- The technology is among the known ones, none of which the name begins with.
        have htechnology : technology ≠ "" :=
          Text.ne_empty_of_not_begins (Bool.eq_false_iff.2 (hcond.2 technology hrule))
        simpa using htechnology
  | query =>
      rintro rfl
      have hget := (Query.transform_eq_some hnew).2.1
      simp [transform, Query.transform, hget] at hnew
  | custom change => exact (hrule name new hnew).2.1

theorem Calm.ne_empty_of_transform (hrule : rule.Calm) (hnew : rule.transform name = some new) :
    new ≠ "" := by
  have hchanges : rule.Changes name new := ⟨hnew, hrule.ne_of_transform hnew⟩
  cases rule with
  | ending word =>
      rintro rfl
      exact hchanges.2 (String.append_eq_empty_iff.1 hchanges.eq_append.symm).1.symm
  | beginning word =>
      rintro rfl
      exact hchanges.2 (String.append_eq_empty_iff.1 hchanges.eq_beginning.symm).2.symm
  | endings table exempt =>
      obtain ⟨rfl, hne⟩ := EndingTable.transform_eq_some hchanges.table
      obtain ⟨-, before, hstep⟩ := EndingTable.step?_of_settle_ne hne
      exact EndingTable.ne_empty_of_step? hstep
  | valueObject =>
      obtain rfl := hchanges.eq_dropAll
      refine dropAll_ne_empty "Value" ?_
      rintro rfl
      exact hchanges.2 (by decide +kernel)
  | repository technology known =>
      obtain ⟨hends, rfl⟩ := hchanges.repository_eq
      refine append_ne_empty_right ?_
      rintro rfl
      exact absurd hends (by decide)
  | query =>
      rintro rfl
      exact absurd (Query.transform_eq_some hnew).2.1 (by decide)
  | custom change => exact (hrule name new hnew).1

/-! ## Rules and the catalog -/

/-- What a rule comes to on a name, if its loops are told without a limit. -/
def Computes : Rule → String → Option String → Prop
  | endings table exempt, name, result =>
    if name ∈ exempt then result = none
    else
      ∃ settled, table.Settles {name} name settled ∧
        result = if settled = name then none else some settled
  | valueObject, name, result =>
    ∃ stem, Drops "Value" name stem ∧
      result = if stem = name || ends stem "Id" then none else some stem
  | rule, name, result => result = rule.transform name

/-- The loops of a rule come to an end, at what it is said to make of the name. -/
theorem Calm.computes (hrule : rule.Calm) (name : String) :
    rule.Computes name (rule.transform name) := by
  cases rule with
  | endings table exempt =>
      simp only [Computes, transform]
      split
      · rfl
      · exact ⟨_, EndingTable.settles_of_step? (EndingTable.Calm.step?_settled hrule name), rfl⟩
  | valueObject => exact ⟨_, drops_dropAll (by decide) name, rfl⟩
  | ending word => rfl
  | beginning word => rfl
  | repository technology known => rfl
  | query => rfl
  | custom change => rfl

theorem Calm.transform_eq_none (hrule : rule.Calm) (hnew : rule.transform name = some new) :
    rule.transform new = none := by
  have hcontent := hrule.content ⟨hnew, hrule.ne_of_transform hnew⟩
  cases hagain : rule.transform new with
  | none => rfl
  | some other => exact absurd ⟨hagain, hrule.ne_of_transform hagain⟩ (hcontent other)

end Rule

namespace Policy

/-- **A name is changed once.**  On every text a policy of the catalog, or one for repositories with
any technology and any technologies known, comes to an end; a text that it asks for is not empty and
differs from the one it was asked about, and the policy asks for nothing else in its place. -/
theorem transform_once {p : Policy}
    (hp : p ∈ catalog ∨ ∃ technology known, p = repository technology known) (name : String) :
    p.rule.Computes name (p.transform name) ∧
      ∀ new, p.transform name = some new → new ≠ "" ∧ new ≠ name ∧ p.transform new = none := by
  have hcalm : p.rule.Calm := by
    rcases hp with hmem | ⟨technology, known, rfl⟩
    · exact calm_of_mem_catalogWith hmem
    · exact calm_repository technology known
  refine ⟨hcalm.computes name, fun new hnew => ?_⟩
  exact ⟨hcalm.ne_empty_of_transform hnew, hcalm.ne_of_transform hnew, hcalm.transform_eq_none hnew⟩

/-- A read model that says so twice, and a repository whose technology is not among those known. -/
theorem transform_once_readModel :
    readModel ∈ catalog ∧
      readModel.rule.Computes "UserReadModelReadModel" (some "User") ∧
      readModel.transform "User" = none ∧
      (repository "Sql" ["Redis"]).transform "OrderRepository" = some "SqlOrderRepository" ∧
      (repository "Sql" ["Redis"]).transform "SqlOrderRepository" = none := by
  have hmem : readModel ∈ catalog := by simp [catalog, catalogWith]
  have hread : readModel.transform "UserReadModelReadModel" = some "User" := by decide +kernel
  have hstored : (repository "Sql" ["Redis"]).transform "OrderRepository" =
      some "SqlOrderRepository" := by decide +kernel
  obtain ⟨hcomputes, honce⟩ := transform_once (Or.inl hmem) "UserReadModelReadModel"
  obtain ⟨-, hrepository⟩ := transform_once (Or.inr ⟨"Sql", ["Redis"], rfl⟩) "OrderRepository"
  rw [hread] at hcomputes
  exact ⟨hmem, hcomputes, (honce _ hread).2.2, hstored, (hrepository _ hstored).2.2⟩

end Policy

end Rechristen
