import Rechristen.Proofs.Policy.Manners

/-!
# Policies that undo each other

Each pass of the catalog leaves names with which its policy is content.  A later pass may give a
declaration another name, with which the earlier policy is not content any more: it *undoes* the
earlier one (`undoings`).  In the catalog only eight pairs of policies do so (`mem_undoing`).  For
all others the manners of their rules tell that they respect each other, or they are never meant for
the same declaration.  Each of the eight pairs does occur.

At the end of the passes a policy wishes for something if and only if it was undone
(`wishFor_nameAfter_iff`).
-/

namespace Rechristen

/-! ## What can be told of a test -/

namespace Test

variable {t : Test} {d : Declaration} {place : Place}

/-- What a test asks of whether a declaration is abstract, if that can be told. -/
def abstractness? : Test → Option Bool
  | abstract_ => some true
  | aggregate => some false
  | _ => none

/-- The test comes out the same under every name. -/
def ignoresName : Test → Bool
  | any => true
  | abstract_ => true
  | exception => true
  | aggregate => false
  | custom _ => false

theorem isAbstract_of_passes {asked : Bool} (hasked : t.abstractness? = some asked)
    (hpasses : t.passes d place = true) : d.isAbstract = asked := by
  cases t with
  | abstract_ =>
      obtain rfl := Option.some.inj hasked
      exact hpasses
  | aggregate =>
      obtain rfl := Option.some.inj hasked
      have hconcrete : (!d.isAbstract) = true := (Bool.and_eq_true_iff.1 hpasses).1
      simpa using hconcrete
  | any => cases hasked
  | exception => cases hasked
  | custom _ => cases hasked

theorem passes_of_ignoresName (ht : t.ignoresName = true) (a b : Name) :
    t.passes { d with shortName := a } place = t.passes { d with shortName := b } place := by
  cases t with
  | any => rfl
  | abstract_ => rfl
  | exception => rfl
  | aggregate => cases ht
  | custom _ => cases ht

end Test

namespace Policy

/-! ## Policies that get along -/

/-- The pairs of policies, an earlier and a later one, of which the later one undoes the earlier one
for some declarations. -/
def undoing : List (String × String) := [
  ("abstract-prefix", "repository-implementation"),
  ("abstract-prefix", "query"),
  ("exception-suffix", "specification"),
  ("exception-suffix", "data-transfer-object"),
  ("value-object", "read-model"),
  ("repository-implementation", "read-model"),
  ("specification", "data-transfer-object"),
  ("query", "read-model")]

/-- What matters of a policy when it meets another one. -/
structure Profile where
  name : String
  kinds : List Kind
  test : Test
  manner : Manner

def profile (p : Policy) : Profile :=
  ⟨p.name, p.kinds, p.test, p.rule.manner⟩

/-- Two policies get along, the second one following the first: they are for different declarations,
or the second respects the first, or they are among the pairs known. -/
def Profile.Accord (first second : Profile) : Prop :=
  (∀ kind ∈ first.kinds, kind ∉ second.kinds) ∨
    (∃ asked ∈ first.test.abstractness?, ∃ other ∈ second.test.abstractness?, asked ≠ other) ∨
    (first.test.ignoresName = true ∧ first.manner.Respected second.manner) ∨
    (first.name, second.name) ∈ undoing

instance (first second : Profile) : Decidable (first.Accord second) :=
  inferInstanceAs (Decidable (_ ∨ _ ∨ _ ∨ _))

theorem profile_catalogWith (technology : String) :
    (catalogWith technology).map profile = catalog.map profile := rfl

theorem accord_catalog : (catalog.map profile).Pairwise Profile.Accord := by
  decide +kernel

theorem calm_repository (technology : String) (known : List String) :
    (repository technology known).rule.Calm :=
  List.mem_eraseDups.2 (List.mem_append_right _ (List.mem_singleton_self _))

/-- What the policies of the catalog give needs no further change. -/
theorem calm_of_mem_catalogWith {technology : String} {p : Policy}
    (hp : p ∈ catalogWith technology) : p.rule.Calm := by
  simp only [catalogWith, List.mem_cons, List.not_mem_nil, or_false] at hp
  rcases hp with rfl | rfl | rfl | rfl | rfl | rfl | rfl | rfl | rfl | rfl | rfl | rfl | rfl
  · trivial
  · trivial
  · trivial
  · trivial
  · trivial
  · exact calm_repository technology technologies
  · exact (show EndingTable.Final _ "Specification" by decide +kernel).calm
  · trivial
  · exact EndingTable.Shrinking.calm (by decide +kernel)
  · exact EndingTable.Shrinking.calm (by decide +kernel)
  · exact (show EndingTable.Final _ "Data" by decide +kernel).calm
  · exact EndingTable.Shrinking.calm (by decide +kernel)
  · exact EndingTable.Shrinking.calm (by decide +kernel)

/-! ## Wishes for a declaration under its changing names -/

variable {p q : Policy} {d : Declaration} {place : Place} {name new : Name}

/-- What a policy wishes for a declaration when it is called `name`. -/
def wishFor (p : Policy) (d : Declaration) (place : Place) (name : Name) : Option Name :=
  p.tryRename { d with shortName := name } place

theorem tryRename_eq_some_iff :
    p.tryRename d place = some new ↔
      p.appliesTo d place = true ∧ p.rule.Changes d.shortName new := by
  rw [tryRename]
  split
  case isTrue happlies =>
    rw [newName?, Option.filter_eq_some_iff, Rule.Changes, transform]
    simp [happlies]
  case isFalse happlies => simp [happlies]

theorem wishFor_eq_some_iff :
    p.wishFor d place name = some new ↔
      p.appliesTo { d with shortName := name } place = true ∧ p.rule.Changes name new :=
  tryRename_eq_some_iff

/-- A policy whose test does not ask for the name is meant for a declaration under all names or
under none. -/
theorem appliesTo_of_ignoresName (htest : p.test.ignoresName = true) (a b : Name) :
    p.appliesTo { d with shortName := a } place = p.appliesTo { d with shortName := b } place := by
  rw [appliesTo, appliesTo, Test.passes_of_ignoresName htest a b]

/-- A policy that gets along with an earlier one and is not known to undo it leaves nothing to wish
for if there was nothing before. -/
theorem wishFor_eq_none_of_accord (haccord : p.profile.Accord q.profile)
    (hknown : (p.name, q.name) ∉ undoing) (hp : p.wishFor d place name = none)
    (hq : q.wishFor d place name = some new) : p.wishFor d place new = none := by
  obtain ⟨hqapplies, hchanges⟩ := wishFor_eq_some_iff.1 hq
  rw [Option.eq_none_iff_forall_ne_some]
  intro other hother
  obtain ⟨hpapplies, hagain⟩ := wishFor_eq_some_iff.1 hother
  have hkinds : d.kind ∈ p.kinds ∧ d.kind ∈ q.kinds := by
    simp only [appliesTo, Bool.and_eq_true, List.contains_iff_mem] at hpapplies hqapplies
    exact ⟨hpapplies.1.1, hqapplies.1.1⟩
  rcases haccord with hapart | ⟨asked, hasked, asked', hasked', hdiffer⟩ | ⟨htest, hrespected⟩ |
    hmem
  · exact hapart _ hkinds.1 hkinds.2
  · have hfirst := Test.isAbstract_of_passes hasked (Bool.and_eq_true_iff.1 hpapplies).2
    have hsecond := Test.isAbstract_of_passes hasked' (Bool.and_eq_true_iff.1 hqapplies).2
    exact hdiffer (hfirst.symm.trans hsecond)
  · have hcontent : p.rule.Content name := by
      intro wished hwished
      have happlies := (appliesTo_of_ignoresName htest name new).trans hpapplies
      rw [wishFor_eq_some_iff.2 ⟨happlies, hwished⟩] at hp
      cases hp
    exact hrespected.content hcontent hchanges other hagain
  · exact hknown hmem

/-! ## One pass after the other -/

/-- The name of a declaration after the pass of a policy that is not refused anything. -/
def nameFor (p : Policy) (d : Declaration) (place : Place) (name : Name) : Name :=
  (p.wishFor d place name).getD name

/-- The name of a declaration after the passes of policies. -/
def nameAfter (d : Declaration) (place : Place) : Name → List Policy → Name
  | name, [] => name
  | name, p :: rest => nameAfter d place (p.nameFor d place name) rest

theorem wishFor_nameFor (hp : p.rule.Calm) (d : Declaration) (place : Place) (name : Name) :
    p.wishFor d place (p.nameFor d place name) = none := by
  unfold nameFor
  cases hwish : p.wishFor d place name with
  | none => exact hwish
  | some new =>
      rw [Option.getD_some, Option.eq_none_iff_forall_ne_some]
      intro other hother
      exact hp.content (wishFor_eq_some_iff.1 hwish).2 other (wishFor_eq_some_iff.1 hother).2

/-- The policy, of those that follow, that undoes a policy for good: before its pass nothing is
wished for, after its pass and in the end something is.  If there are several, it is the last
one. -/
def undoneBy? (p : Policy) (d : Declaration) (place : Place) : Name → List Policy → Option Policy
  | _, [] => none
  | name, q :: rest =>
    let new := q.nameFor d place name
    (p.undoneBy? d place new rest).or
      (if (p.wishFor d place name).isNone && (p.wishFor d place new).isSome &&
          (p.wishFor d place (nameAfter d place new rest)).isSome then some q else none)

/-- The policies that are undone in the passes for a declaration, each with the one that undoes
it. -/
def undoings (d : Declaration) (place : Place) : Name → List Policy → List (Policy × Policy)
  | _, [] => []
  | name, p :: rest =>
    ((p.undoneBy? d place (p.nameFor d place name) rest).map (p, ·)).toList ++
      undoings d place (p.nameFor d place name) rest

/-- By induction on the passes: the wish in the end has come up in one of them. -/
theorem exists_undoneBy? {rest : List Policy} (hbefore : p.wishFor d place name = none)
    (hend : p.wishFor d place (nameAfter d place name rest) ≠ none) :
    ∃ q, p.undoneBy? d place name rest = some q := by
  induction rest generalizing name with
  | nil => exact absurd hbefore hend
  | cons q rest ih =>
      rw [nameAfter] at hend
      rw [undoneBy?]
      cases hnext : p.wishFor d place (q.nameFor d place name) with
      | none =>
          obtain ⟨undoer, hundoer⟩ := ih hnext hend
          exact ⟨undoer, by rw [hundoer, Option.some_or]⟩
      | some new =>
          rw [← Option.isSome_iff_exists, Option.isSome_or, Bool.or_eq_true]
          right
          simp [hbefore, Option.isSome_iff_ne_none, hend]

theorem undoneBy?_eq_some {rest : List Policy} (hundone : p.undoneBy? d place name rest = some q) :
    q ∈ rest ∧ p.wishFor d place (nameAfter d place name rest) ≠ none ∧
      ∃ before after, p.wishFor d place before = none ∧ q.wishFor d place before = some after ∧
        p.wishFor d place after ≠ none := by
  induction rest generalizing name with
  | nil => cases hundone
  | cons first rest ih =>
      rw [undoneBy?] at hundone
      rw [nameAfter]
      rcases Option.or_eq_some_iff.1 hundone with hlater | ⟨-, hhere⟩
      · obtain ⟨hmem, hwish⟩ := ih hlater
        exact ⟨List.mem_cons_of_mem _ hmem, hwish⟩
      · split at hhere
        case isFalse => cases hhere
        case isTrue hcond =>
          obtain rfl := Option.some.inj hhere
          simp only [Bool.and_eq_true, Option.isNone_iff_eq_none, Option.isSome_iff_ne_none]
            at hcond
          obtain ⟨⟨hbefore, hafter⟩, hend⟩ := hcond
          refine ⟨List.mem_cons_self, hend, name, first.nameFor d place name, hbefore, ?_, hafter⟩
          -- Without a wish the name would be the same before and after.
          cases hwish : first.wishFor d place name with
          | some new => rw [nameFor, hwish, Option.getD_some]
          | none =>
              rw [nameFor, hwish, Option.getD_none] at hafter
              exact absurd hbefore hafter

theorem mem_undoings_cons {first : Policy} {rest : List Policy} :
    (p, q) ∈ undoings d place name (first :: rest) ↔
      (p = first ∧ p.undoneBy? d place (first.nameFor d place name) rest = some q) ∨
        (p, q) ∈ undoings d place (first.nameFor d place name) rest := by
  rw [undoings, List.mem_append, Option.mem_toList, Option.map_eq_some_iff]
  refine or_congr_left ⟨?_, ?_⟩
  · rintro ⟨other, hother, hpair⟩
    obtain ⟨rfl, rfl⟩ := Prod.mk.inj hpair
    exact ⟨rfl, hother⟩
  · rintro ⟨rfl, hundone⟩
    exact ⟨q, hundone, rfl⟩

theorem wishFor_of_mem_undoings {policies : List Policy}
    (hundone : (p, q) ∈ undoings d place name policies) :
    p.wishFor d place (nameAfter d place name policies) ≠ none := by
  induction policies generalizing name with
  | nil => cases hundone
  | cons first rest ih =>
      rw [nameAfter]
      rcases mem_undoings_cons.1 hundone with ⟨-, hhere⟩ | hlater
      · exact (undoneBy?_eq_some hhere).2.1
      · exact ih hlater

/-- **What is left to wish for.**  After the passes of policies one of them wishes for another name
if and only if it was undone. -/
theorem wishFor_nameAfter_iff {policies : List Policy} (hcalm : ∀ p ∈ policies, p.rule.Calm)
    (hp : p ∈ policies) :
    p.wishFor d place (nameAfter d place name policies) ≠ none ↔
      ∃ q, (p, q) ∈ undoings d place name policies := by
  refine ⟨fun hend => ?_, fun ⟨q, hq⟩ => wishFor_of_mem_undoings hq⟩
  induction policies generalizing name with
  | nil => cases hp
  | cons first rest ih =>
      obtain ⟨hfirst, hrest⟩ := List.forall_mem_cons.1 hcalm
      rw [nameAfter] at hend
      rcases List.mem_cons.1 hp with rfl | hlater
      · obtain ⟨q, hq⟩ := exists_undoneBy? (wishFor_nameFor hfirst d place name) hend
        exact ⟨q, mem_undoings_cons.2 (Or.inl ⟨rfl, hq⟩)⟩
      · obtain ⟨q, hq⟩ := ih hrest hlater hend
        exact ⟨q, mem_undoings_cons.2 (Or.inr hq)⟩

/-- Policies that get along with those before them undo only those they are known to undo. -/
theorem mem_undoing {policies : List Policy}
    (haccord : (policies.map profile).Pairwise Profile.Accord)
    (hundone : (p, q) ∈ undoings d place name policies) : (p.name, q.name) ∈ undoing := by
  induction policies generalizing name with
  | nil => cases hundone
  | cons first rest ih =>
      rw [List.map_cons, List.pairwise_cons] at haccord
      rcases mem_undoings_cons.1 hundone with ⟨rfl, hhere⟩ | hlater
      · obtain ⟨hmem, -, before, after, hbefore, hwish, hafter⟩ := undoneBy?_eq_some hhere
        refine Decidable.byContradiction fun hknown => hafter ?_
        exact wishFor_eq_none_of_accord (haccord.1 _ (List.mem_map_of_mem hmem)) hknown hbefore
          hwish
      · exact ih haccord.2 hlater

-- Each of the pairs occurs, and here it is the only one.
example :
    let classIn (space shortName : Name) : Declaration :=
      { shortName, space, kind := .class_, path := ⟨"", ["F"]⟩ }
    let undone : List Declaration := [
      { classIn "Infrastructure\\Repository" "Repository" with isAbstract := true },
      { classIn "Application\\Query" "Query" with isAbstract := true },
      { classIn "Specification" "A" with parent := some "Exception" },
      { classIn "DataTransferObject" "A" with parent := some "Exception" },
      classIn "ValueObject\\ReadModel" "AValueReadModel",
      classIn "Infrastructure\\Repository\\ReadModel" "RepositoryReadModel",
      classIn "Specification\\DataTransferObject" "A",
      classIn "Application\\Query\\ReadModel" "QueryReadModel"]
    (undone.map fun d => (undoings d (d.place none) d.shortName catalog).map fun u =>
      (u.1.name, u.2.name)) = undoing.map fun pair => [pair] := by
  decide +kernel

end Policy

end Rechristen
