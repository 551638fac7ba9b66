import Rechristen.Proofs.Policy.ShortNames
import Rechristen.Proofs.Reference.Meaning
import Rechristen.Proofs.Session.Targets
import Rechristen.Proofs.Source.Rewording

/-!
# References respelled at once

When an eager policy renames a declaration, it respells the references of the file.  A reference to
a class that the registry knows gets the name that the registry tells.  A reference to a class that
was not renamed yet gets the name that the policy would choose: that is a guess, and whether it is
*borne out* shows in the end (`BorneOut`).

If the new name is borne out and the reference keeps its binding, then the registry leads in the end
from what the reference stands for now to where it leads from what the reference stood for before
(`meaning_respelled`).
-/

namespace Rechristen

namespace Session

variable {s t : Session} {p : Policy}

/-! ## The name chosen for one reference -/

/-- The short name for a reference is that of the registry, or else a guess. -/
theorem targetShort_cases {name current last : Name}
    (hshort : s.targetShort p name current = some last) :
    (∃ target, s.registry.lookup name = some target ∧ last = target.short) ∨
      (s.registry.lookup name = none ∧ p.renameReference current = some last) := by
  unfold targetShort at hshort
  cases hguess : p.renameReference current with
  | none =>
      rw [hguess] at hshort
      cases hshort
  | some short =>
      rw [hguess] at hshort
      dsimp only at hshort
      cases hlookup : s.registry.lookup name with
      | some target =>
          rw [hlookup] at hshort
          exact Or.inl ⟨target, rfl, (Option.some.inj hshort).symm⟩
      | none =>
          rw [hlookup] at hshort
          dsimp only at hshort
          split at hshort
          · cases hshort
          · exact Or.inr ⟨rfl, hshort⟩

theorem isCompound_of_targetShort (hp : p.rule.Plain) {name written last : Name}
    (hshort : s.targetShort p name written.short = some last) : last.isCompound = false := by
  rcases targetShort_cases hshort with ⟨target, -, rfl⟩ | ⟨-, hguess⟩
  · exact Name.isCompound_short target
  · exact Policy.isCompound_of_renameReference hp (Name.isCompound_short written) hguess

theorem withShort_eq_some {written new : Name} {short : Option Name}
    (hnew : withShort written short = some new) :
    ∃ last, short = some last ∧ last ≠ written.short ∧ new = written.withLast last := by
  obtain ⟨last, hlast, rfl⟩ := Option.map_eq_some_iff.1 hnew
  obtain ⟨hshort, hdiffers⟩ := Option.filter_eq_some_iff.1 hlast
  exact ⟨last, hshort, by simpa using hdiffers, rfl⟩

/-- An import is respelled for the class that it imports. -/
theorem localRewording_import {resolver : Name → Resolver} {site : Reference} {new : Name}
    (hkind : site.kind = .import_) (hnew : (s.localRewording p resolver site).name = some new) :
    ∃ last, s.targetShort p site.imported site.name.short = some last ∧ last ≠ site.name.short ∧
      new = site.name.withLast last := by
  unfold localRewording at hnew
  rw [if_pos hkind] at hnew
  split at hnew
  · exact withShort_eq_some hnew
  · cases hnew

/-- Any other reference is respelled for the class that it stands for, unless it is bound under an
alias: then it follows the alias. -/
theorem localRewording_other {resolver : Name → Resolver} {site : Reference} {new : Name}
    (hkind : site.kind ≠ .import_) (hnew : (s.localRewording p resolver site).name = some new) :
    ∃ last, last ≠ site.name.short ∧ new = site.name.withLast last ∧
      (if (resolver site.space).isAliased site.name && !site.name.isCompound then
        p.renameReference site.name.short = some last
      else
        s.targetShort p ((resolver site.space).resolve site.name) site.name.short = some last) := by
  unfold localRewording at hnew
  rw [if_neg hkind] at hnew
  split at hnew
  · cases hnew
  · dsimp only at hnew
    split at hnew
    · obtain ⟨last, hshort, hdiffers, rfl⟩ := withShort_eq_some hnew
      refine ⟨last, hdiffers, rfl, ?_⟩
      split at hshort
      case isTrue haliased => rwa [if_pos haliased]
      case isFalse haliased => rwa [if_neg haliased]
    · cases hnew

/-- Whatever an eager policy does to a reference, it replaces the last segment of its name. -/
theorem localRewording_last (hp : p.rule.Plain) {resolver : Name → Resolver} {site : Reference}
    {new : Name} (hnew : (s.localRewording p resolver site).name = some new) :
    ∃ last, last.isCompound = false ∧ new = site.name.withLast last := by
  by_cases hkind : site.kind = .import_
  · obtain ⟨last, hshort, -, rfl⟩ := localRewording_import hkind hnew
    exact ⟨last, isCompound_of_targetShort hp hshort, rfl⟩
  · obtain ⟨last, -, rfl, hchosen⟩ := localRewording_other hkind hnew
    refine ⟨last, ?_, rfl⟩
    split at hchosen
    · exact Policy.isCompound_of_renameReference hp (Name.isCompound_short _) hchosen
    · exact isCompound_of_targetShort hp hchosen

/-! ## Names that are borne out -/

/-- The reference at a place was respelled, and the new name is *borne out*.  If the registry told
it, the registry does not lead on from it.  If it was a guess, the registry leads in the end from
the guess to where it leads from the old name. -/
def BorneOut (final : Registry) (s : Session) (before after : List Reference) (place : Nat) :
    Prop :=
  ∀ b ∈ before[place]?, ∀ a ∈ after[place]?, a.name ≠ b.name →
    (∀ target ∈ s.registry.lookup (b.meaning before), s.registry.lookup target = none) ∧
    (s.registry.lookup (b.meaning before) = none →
      final.present ((b.meaning before).withLast a.name.short).key =
        final.present (b.meaning before).key)

instance (final : Registry) (s : Session) (before after : List Reference) (place : Nat) :
    Decidable (BorneOut final s before after place) :=
  inferInstanceAs (Decidable (∀ b ∈ before[place]?, ∀ a ∈ after[place]?, _ → _ ∧ _))

/-- The name that a reference gets when its file is respelled, if it gets one. -/
def chosenName? (s : Session) (p : Policy) (references : List Reference) (site : Reference) :
    Option Name :=
  if p.eager then
    (s.localRewording p (fun space => Resolver.ofReferences space references) site).name
  else none

theorem rewordedAt_of_respelled {before after : Source} (hrespelled : Respelled s p before after) :
    Reference.RewordedAt
      (fun i => before.references[i]?.bind (s.chosenName? p before.references))
      before.references after.references := by
  unfold Respelled at hrespelled
  split at hrespelled
  case isTrue heager =>
    obtain ⟨count, hreword⟩ := hrespelled
    refine (Source.rewordAll_ok hreword).congr fun i _ => ?_
    rw [List.map_map, List.getElem?_map]
    cases before.references[i]? with
    | none => rfl
    | some b => simp [chosenName?, heager]
  case isFalse heager =>
    rw [hrespelled]
    refine (Reference.RewordedAt.refl before.references).congr fun i _ => ?_
    cases before.references[i]? with
    | none => rfl
    | some b => simp [chosenName?, heager]

theorem chosenName?_eq_some {references : List Reference} {site : Reference} {new : Name}
    (hnew : s.chosenName? p references site = some new) :
    (s.localRewording p (fun space => Resolver.ofReferences space references) site).name =
      some new := by
  unfold chosenName? at hnew
  split at hnew
  · exact hnew
  · cases hnew

theorem reworded_of_respelled {before after : Source} (hrespelled : Respelled s p before after)
    {place : Nat} {b a : Reference} (hb : before.references[place]? = some b)
    (ha : after.references[place]? = some a) :
    Reference.Reworded (s.chosenName? p before.references b) b a := by
  have hplace := (rewordedAt_of_respelled hrespelled).each place b a hb ha
  rwa [hb, Option.bind_some] at hplace

/-- A new last segment that is borne out: the registry leads in the end from the new name to where
it leads from the old one. -/
theorem BorneOut.present_eq (hs : s.Coherent) (htidy : s.Tidy) (hreaches : s.Reaches t)
    {before after : List Reference} {place : Nat} {b a : Reference}
    (hborne : BorneOut t.registry s before after place) (hb : before[place]? = some b)
    (ha : after[place]? = some a) {last : Name} (hlast : last.isCompound = false)
    (hname : a.name = b.name.withLast last) (hdiffers : last ≠ b.name.short)
    (hshort : s.targetShort p (b.meaning before) b.name.short = some last) :
    t.registry.present ((b.meaning before).withLast last).key =
      t.registry.present (b.meaning before).key := by
  have hlastShort : a.name.short = last := by rw [hname, Name.short_withLast hlast]
  have hchanged : a.name ≠ b.name := fun hsame => hdiffers (by rw [← hlastShort, hsame])
  obtain ⟨htold, hguess⟩ := hborne b hb a ha hchanged
  rcases targetShort_cases hshort with ⟨target, hlookup, rfl⟩ | ⟨hlookup, -⟩
  · rw [Name.key_withLast_short (htidy.registry.space_of_lookup hlookup)]
    exact hs.present_target hreaches hlookup (htold target hlookup)
  · rw [hlastShort] at hguess
    exact hguess hlookup

/-- **References respelled at once.**  If a reference keeps its binding when its file is respelled,
and the new name that decides it is borne out, then the registry leads in the end from what the
reference stands for afterwards to where it leads from what the reference stood for before. -/
theorem meaning_respelled (hs : s.Coherent) (htidy : s.Tidy) (hp : p.rule.Plain)
    (hreaches : s.Reaches t) {before after : Source} (hrespelled : Respelled s p before after)
    {i : Nat} {b a : Reference} (hb : before.references[i]? = some b)
    (ha : after.references[i]? = some a)
    (hkeeps : b.KeepsBinding before.references after.references a)
    (hborne : BorneOut t.registry s before.references after.references
      (b.decider before.references i)) :
    t.registry.present (a.meaning after.references).key =
      t.registry.present (b.meaning before.references).key := by
  have hword := reworded_of_respelled hrespelled hb ha
  refine Reference.meaning_step
    (fun old new => t.registry.present new = t.registry.present old)
    hb ha hword.kind hword.space ?_ hkeeps ?_ ?_
  · intro _
    cases hnew : s.chosenName? p before.references b with
    | none => rw [hword.name, hnew, Option.getD_none]
    | some new =>
        obtain ⟨last, hlast, rfl⟩ := localRewording_last hp (chosenName?_eq_some hnew)
        rw [hword.name, hnew, Option.getD_some, Name.isCompound_withLast hlast]
  · intro clause clause' hclause hclause' hkind
    have hclauseWord := reworded_of_respelled hrespelled hclause hclause'
    cases hnew : s.chosenName? p before.references clause with
    | none =>
        rw [hnew] at hclauseWord
        rw [Reference.imported_congr hclauseWord.name hclauseWord.group]
    | some new =>
        obtain ⟨last, hshort, hdiffers, rfl⟩ :=
          localRewording_import hkind (chosenName?_eq_some hnew)
        have hlast := isCompound_of_targetShort hp hshort
        have hname : clause'.name = clause.name.withLast last := by rw [hclauseWord.name, hnew]; rfl
        have hmeans := Reference.meaning_of_import before.references hkind
        rw [← hmeans] at hshort
        rw [Reference.imported_withLast hlast hname hclauseWord.group, ← hmeans]
        exact hborne.present_eq hs htidy hreaches hclause hclause' hlast hname hdiffers hshort
  · intro hkind hself
    rw [hself] at hborne
    cases hnew : s.chosenName? p before.references b with
    | none =>
        left
        rw [hword.name, hnew]
        exact ⟨rfl, rfl⟩
    | some new =>
        right
        obtain ⟨last, hdiffers, rfl, hchosen⟩ :=
          localRewording_other hkind (chosenName?_eq_some hnew)
        -- A reference that decides for itself does not follow an alias.
        have hnoAlias : ((Resolver.ofReferences b.space before.references).isAliased b.name &&
            !b.name.isCompound) = false := by
          cases hcompound : b.name.isCompound with
          | true => simp
          | false =>
              have hunbound := Reference.unbound_of_decider hb hkind hcompound hself
              simp [Reference.isAliased_of_unbound hkind hcompound hunbound]
        rw [if_neg (by simp [hnoAlias])] at hchosen
        have hlast := isCompound_of_targetShort hp hchosen
        have hname : a.name = b.name.withLast last := by rw [hword.name, hnew]; rfl
        have hmeans : b.meaning before.references =
            (Resolver.ofReferences b.space before.references).resolve b.name := if_neg hkind
        rw [← hmeans] at hchosen
        exact ⟨last, hlast, hname,
          hborne.present_eq hs htidy hreaches hb ha hlast hname hdiffers hchosen⟩

end Session

end Rechristen
