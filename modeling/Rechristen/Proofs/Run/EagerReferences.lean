import Rechristen.Proofs.Pass.Endings
import Rechristen.Proofs.Run.Deferral
import Rechristen.Proofs.Run.ReferenceIntegrity

/-!
# Eager and deferred respelling

The references of a file can be respelled in two ways: eagerly, while the policies are followed, or
only in the end, when all declarations have their names.  Both ways lead to the same references
(`eager_deferred_agree`), if each new name that an eager policy gives is borne out.  The same
classes are then imported, and other references have the same text up to the letter case of the last
segment.

An eager policy guesses before it knows: the guess may be wrong, it has the letter case of the
reference and not of the declaration, and it may be a word that is not looked up again.  Files that
show this are at the end (`eager_deferred_differ`).
-/

namespace Rechristen

open Reference (SameButLast)

/-! ## One file -/

namespace Session

variable {s t : Session} {p : Policy} {source after : Source} {id : DeclarationId}
  {newName : Option Name} {record : Option RenameRecord}

/-- A call replaces at most the last segment of a reference. -/
theorem sameButLast_apply (hp : p.rule.Plain)
    (happly : s.apply source id newName p = ⟨.ok record, (t, after)⟩) {i : Nat} {b : Reference}
    (hb : source.references[i]? = some b) :
    ∃ a, after.references[i]? = some a ∧ SameButLast b a := by
  rcases apply_references happly with hsame | ⟨edited, hsame, hrespelled⟩
  · exact ⟨b, by rw [hsame, hb], SameButLast.refl b⟩
  · rw [← hsame] at hb
    obtain ⟨a, ha, -⟩ := (rewordedAt_of_respelled hrespelled).exists_after hb
    have hword := reworded_of_respelled hrespelled hb ha
    refine ⟨a, ha, hword.kind, ?_⟩
    rw [hword.name]
    cases hnew : t.chosenName? p edited.references b with
    | none => exact (SameButLast.refl b).name
    | some new => exact localRewording_last hp (chosenName?_eq_some hnew)

end Session

/-- A visit does not change what the fix with the final registry would write at a place, to the
letter. -/
def Visit.KeepsEnding (final : Registry) (v : Visit) (i : Nat) : Prop :=
  ∀ b ∈ v.before.references[i]?, ∀ a ∈ v.after.references[i]?,
    a.ending final v.after.references = b.ending final v.before.references

instance (final : Registry) (v : Visit) (i : Nat) : Decidable (v.KeepsEnding final i) :=
  inferInstanceAs (Decidable (∀ b ∈ v.before.references[i]?, ∀ a ∈ v.after.references[i]?, _))

namespace Course

variable {s u : Session} {source after : Source} {visits : List Visit} {i : Nat} {b : Reference}

/-- What a course makes of a reference: at most its last segment is another one, and if no visit
changes the ending, that stays. -/
theorem sameButLast (hcourse : Course s source visits u after) (final : Registry)
    (hb : source.references[i]? = some b) :
    ∃ a, after.references[i]? = some a ∧ SameButLast b a ∧
      ((∀ v ∈ visits, v.KeepsEnding final i) →
        a.ending final after.references = b.ending final source.references) := by
  induction hcourse generalizing b with
  | done => exact ⟨b, hb, SameButLast.refl b, fun _ => rfl⟩
  | elsewhere _ _ ih => exact ih hb
  | visit hp _ happly _ ih =>
      obtain ⟨middle, hmiddle, hfirst⟩ := Session.sameButLast_apply hp happly hb
      obtain ⟨a, ha, hlater, hending⟩ := ih hmiddle
      refine ⟨a, ha, hfirst.trans hlater, fun hkeeps => ?_⟩
      obtain ⟨hvisit, hrest⟩ := List.forall_mem_cons.1 hkeeps
      rw [hending hrest, hvisit b hb middle hmiddle]

end Course

namespace Run

/-- The reference at a place of a file. -/
def referenceAt? (r : Run) (file i : Nat) : Option Reference :=
  r.sources[file]?.bind (·.references[i]?)

/-- The reference at a place of a file goes by the name of its class. -/
def ByNameAt (r : Run) (file i : Nat) : Prop :=
  ∀ source ∈ r.sources[file]?, ∀ site ∈ source.references[i]?, site.ByName source.references

instance (r : Run) (file i : Nat) : Decidable (r.ByNameAt file i) :=
  inferInstanceAs (Decidable (∀ source ∈ r.sources[file]?, ∀ site ∈ source.references[i]?, _))

theorem fixed_at {followed fixed : Run} {count : Nat}
    (hfix : followed.fixReferences = ⟨.ok count, fixed⟩) (htidy : followed.session.registry.Tidy)
    {file i : Nat} {before : Source} (hbefore : followed.sources[file]? = some before)
    (hformed : before.Formed) {b : Reference} (hb : before.references[i]? = some b) :
    ∃ a, fixed.referenceAt? file i = some a ∧
      References.Fixed followed.session.registry before.references b a := by
  obtain ⟨-, -, notes, hall⟩ := fixReferences_ok hfix
  obtain ⟨after, a, hafter, ha, hfixed⟩ := References.fixed_of_fixAll htidy hall hbefore hb
    (hformed b (List.mem_of_getElem? hb))
  exact ⟨a, by rw [referenceAt?, hafter, Option.bind_some, ha], hfixed⟩

/-! ## Two runs -/

/-- **Eager and deferred respelling agree.**  Read files whose declarations have different keys, and
follow policies twice, once as they are and once without their haste; then fix the references.  Take
a place of a file at which the eager visits keep the binding and every new name is borne out.
An import there imports the same in both runs.  Any other reference that goes by the name of its
class has the same text in both, up to the letter case of the last segment, and to the letter if no
visit changes its ending. -/
theorem eager_deferred_agree {dryRun : Bool} {collision : CollisionPolicy}
    {files : List (Source × Sites)} (hformed : ∀ file ∈ files, file.2.WellFormed)
    (hdistinct : ((declared files).map Declaration.key).Nodup)
    {policies : List Policy} (hplain : ∀ p ∈ policies, p.rule.Plain)
    {followed fixed : Run} {count : Nat}
    (hfollow : (opened dryRun collision files).followAll policies = ⟨.ok (), followed⟩)
    (hfix : followed.fixReferences = ⟨.ok count, fixed⟩)
    {followed' fixed' : Run} {count' : Nat}
    (hfollow' : (opened dryRun collision files).followAll (policies.map Policy.deferred) =
      ⟨.ok (), followed'⟩)
    (hfix' : followed'.fixReferences = ⟨.ok count', fixed'⟩)
    {file i : Nat} {site : Reference}
    (hsite : (opened dryRun collision files).referenceAt? file i = some site)
    (hkeeps : ∀ v ∈ visitsAt file (opened dryRun collision files) policies,
      v.Keeps followed.session.registry i) :
    ∃ e d, fixed.referenceAt? file i = some e ∧ fixed'.referenceAt? file i = some d ∧
      (site.kind = .import_ → e.imported.key = d.imported.key) ∧
      (site.kind ≠ .import_ → (opened dryRun collision files).ByNameAt file i →
        followed.ByNameAt file i →
        (∃ last last', e.name = site.name.withLast last ∧ d.name = site.name.withLast last' ∧
          Text.lowercase last = Text.lowercase last') ∧
        ((∀ v ∈ visitsAt file (opened dryRun collision files) policies,
          v.KeepsEnding followed.session.registry i) → e.name = d.name)) := by
  obtain ⟨start, hstart, hsite⟩ := Option.bind_eq_some_iff.1 hsite
  have htidy : (opened dryRun collision files).session.Tidy := opened_tidy hformed
  have hstartFormed : start.Formed := opened_formed hformed start (List.mem_of_getElem? hstart)
  -- The eager run: the file has a course.
  obtain ⟨hreaches, hcourses⟩ := followAll_course hplain htidy hfollow
  obtain ⟨before, hbefore, hcourse⟩ := hcourses file start hstart
  obtain ⟨b, hb, hbut, hending⟩ := hcourse.sameButLast followed.session.registry hsite
  obtain ⟨b', hb', hleads⟩ :=
    hcourse.leadsAt (opened_coherent hdistinct) htidy hkeeps ⟨site, hsite, rfl⟩
  obtain rfl := Option.some.inj (hb.symm.trans hb')
  have hregistryTidy := (htidy.reaches hreaches).registry
  obtain ⟨e, he, heager⟩ :=
    fixed_at hfix hregistryTidy hbefore (hcourse.formed hstartFormed) hb
  -- The deferred run: the registry is the same, and the file is as it was read.
  have habreast : Abreast followed followed' :=
    Abreast.followAll ⟨Session.Alike.refl _, rfl⟩ hfollow hfollow'
  have hregistry : followed'.session.registry = followed.session.registry :=
    habreast.sessions.registry
  have hreferences :=
    congrArg (·[file]?) (references_followAll (by simp [Policy.deferred]) hfollow')
  simp only [List.getElem?_map, hstart, Option.map_some] at hreferences
  obtain ⟨before', hbefore', hsame⟩ := Option.map_eq_some_iff.1 hreferences
  obtain ⟨d, hd, hdeferred⟩ := fixed_at (i := i) (b := site) hfix' (by rwa [hregistry]) hbefore'
    (by rwa [Source.Formed, hsame]) (by rw [hsame, hsite])
  rw [hregistry, hsame] at hdeferred
  refine ⟨e, d, he, hd, fun hkind => ?_, fun hkind hbyName hbyName' => ?_⟩
  · have hkind' : b.kind = .import_ := hbut.kind.trans hkind
    rw [heager.imported hkind', hdeferred.imported hkind,
      ← Reference.meaning_of_import before.references hkind', hleads,
      Reference.meaning_of_import _ hkind]
  · have hkind' : b.kind ≠ .import_ := by rwa [hbut.kind]
    have hstartName := hbyName start hstart site hsite
    have hbeforeName := hbyName' before hbefore b hb
    -- Both texts are the first one with another ending, and the endings lead to one name.
    have hename : e.name = site.name.withLast
        (b.ending followed.session.registry before.references) := by
      rw [heager.name hkind' hbeforeName, hbut.withLast]
    have hdname := hdeferred.name hkind hstartName
    refine ⟨⟨_, _, hename, hdname,
      Reference.lowercase_ending hkind hstartName hkind' hbeforeName hleads⟩, fun hletters => ?_⟩
    rw [hename, hdname, hending hletters]

/-- The files in which a guess is borne out, after a policy was followed in them. -/
def guessedWith (p : Policy) : Run :=
  ((opened false .firstWins guessedRight).followAll [p]).state

theorem eager_deferred_agree_guessedRight :
    ∃ fixed fixed' count count',
      (guessedWith Policy.valueObject).fixReferences = ⟨.ok count, fixed⟩ ∧
      (guessedWith Policy.valueObject.deferred).fixReferences = ⟨.ok count', fixed'⟩ ∧
      (∃ e d, fixed.referenceAt? 0 0 = some e ∧ fixed'.referenceAt? 0 0 = some d ∧
        e.imported.key = d.imported.key) ∧
      ∃ e d, fixed.referenceAt? 0 1 = some e ∧ fixed'.referenceAt? 0 1 = some d ∧
        e.name = d.name := by
  have hformed : ∀ file ∈ guessedRight, file.2.WellFormed := by decide +kernel
  have hdistinct : ((declared guessedRight).map Declaration.key).Nodup := by decide +kernel
  have htechnology : Name.isCompound Policy.defaultTechnology = false := by decide +kernel
  have hcatalog : Policy.valueObject ∈ Policy.catalogWith Policy.defaultTechnology := by
    simp [Policy.catalogWith]
  have hplain : ∀ p ∈ [Policy.valueObject], p.rule.Plain := by
    intro p hp
    rw [List.mem_singleton.1 hp]
    exact Policy.plain_of_mem_catalogWith htechnology hcatalog
  -- The two runs are evaluated once, for everything that is to be known about them.
  obtain ⟨hok, hok', hfixed, hfixed', hname, hname', hkeeps⟩ :
      ((opened false .firstWins guessedRight).followAll [Policy.valueObject]).failure? = none ∧
      ((opened false .firstWins guessedRight).followAll
        ([Policy.valueObject].map Policy.deferred)).failure? = none ∧
      (guessedWith Policy.valueObject).fixReferences.failure? = none ∧
      (guessedWith Policy.valueObject.deferred).fixReferences.failure? = none ∧
      (opened false .firstWins guessedRight).ByNameAt 0 1 ∧
      (guessedWith Policy.valueObject).ByNameAt 0 1 ∧
      ∀ v ∈ visitsAt 0 (opened false .firstWins guessedRight) [Policy.valueObject],
        v.Keeps (guessedWith Policy.valueObject).session.registry 0 ∧
          v.Keeps (guessedWith Policy.valueObject).session.registry 1 ∧
          v.KeepsEnding (guessedWith Policy.valueObject).session.registry 1 := by
    decide +kernel
  obtain ⟨_, hfollow⟩ := Attempt.exists_ok hok
  obtain ⟨_, hfollow'⟩ := Attempt.exists_ok hok'
  obtain ⟨count, hfix⟩ := Attempt.exists_ok hfixed
  obtain ⟨count', hfix'⟩ := Attempt.exists_ok hfixed'
  refine ⟨_, _, count, count', hfix, hfix', ?_, ?_⟩
  · have himport : (opened false .firstWins guessedRight).referenceAt? 0 0 = some _ := rfl
    obtain ⟨e, d, he, hd, hsame, -⟩ := eager_deferred_agree hformed hdistinct hplain hfollow hfix
      hfollow' hfix' himport fun v hv => (hkeeps v hv).1
    exact ⟨e, d, he, hd, hsame rfl⟩
  · have hbare : (opened false .firstWins guessedRight).referenceAt? 0 1 = some _ := rfl
    obtain ⟨e, d, he, hd, -, hsame⟩ := eager_deferred_agree hformed hdistinct hplain hfollow hfix
      hfollow' hfix' hbare fun v hv => (hkeeps v hv).2.1
    exact ⟨e, d, he, hd, (hsame (by decide) hname hname').2 fun v hv => (hkeeps v hv).2.2⟩

/-! ## References that differ -/

/-- The reference at a place of files when policies were followed and the references fixed. -/
def endsAs? (files : List (Source × Sites)) (policies : List Policy) (file i : Nat) :
    Option Reference :=
  match ((opened false .firstWins files).followAll policies).andThen fun _ r => r.fixReferences with
  | ⟨.error _, _⟩ => none
  | ⟨.ok _, last⟩ => last.referenceAt? file i

/-- A run of catalog policies over files with different declarations and without aliases, after
which the reference at a place depends on the haste of the policies. -/
def Differs (files : List (Source × Sites)) (policies : List Policy) (file i : Nat) : Prop :=
  ((declared files).map Declaration.key).Nodup ∧ (∀ p ∈ policies, p ∈ Policy.catalog) ∧
    (∀ file ∈ files, ∀ site ∈ file.2.references, site.aliasName = none) ∧
    ∃ e ∈ endsAs? files policies file i, ∃ d ∈ endsAs? files (policies.map Policy.deferred) file i,
      if e.kind = .import_ then e.imported.key ≠ d.imported.key else e.name ≠ d.name

/-- The interface is imported, and the policy does not rename it. -/
def importGuessed : List (Source × Sites) :=
  [fileIn "ValueObject" [(.class_, "AValue")] [(.import_, "ValueObject\\BValue")],
    fileIn "ValueObject" [(.interface, "BValue")] []]

/-- The class is referred to in another letter case. -/
def letterCase : List (Source × Sites) :=
  [fileIn "ValueObject" [(.class_, "AValue")] [(.bare, "bValue")],
    fileIn "ValueObject" [(.class_, "BValue")] []]

/-- The guess is caught by an import of another class. -/
def caughtEarly : List (Source × Sites) :=
  [fileIn "ValueObject" [(.class_, "AValue")] [(.import_, "Lib\\B"), (.bare, "BValue")],
    fileIn "ValueObject" [(.class_, "BValue")] [], fileIn "Lib" [(.interface, "B")] []]

/-- The guess is for an import on which a longer name builds. -/
def builtUponEarly : List (Source × Sites) :=
  [fileIn "ValueObject" [(.class_, "AValue")]
      [(.import_, "ValueObject\\N\\BValue"), (.qualified, "BValue\\C")],
    fileIn "ValueObject\\N" [(.class_, "BValue")] [],
    fileIn "ValueObject\\N\\BValue" [(.interface, "C")] []]

/-- It matters whether policies are eager, if one of the conditions fails: a guess is wrong, at a
name or at an import, a guess has the letter case of the reference, the registry leads on from the
new name, a guess is a word that is not looked up again, it is caught by an import, or it is made
for the one on which a longer name builds. -/
theorem eager_deferred_differ :
    Differs guessedWrong [Policy.valueObject] 0 0 ∧
    Differs importGuessed [Policy.valueObject] 0 0 ∧
    Differs letterCase [Policy.valueObject] 0 0 ∧
    Differs handedOn [Policy.interfaceEnding, Policy.valueObject] 0 0 ∧
    Differs unspeakable [Policy.valueObject, Policy.abstractBeginning] 0 0 ∧
    Differs caughtEarly [Policy.valueObject, Policy.interfaceEnding] 0 1 ∧
    Differs builtUponEarly [Policy.valueObject, Policy.interfaceEnding] 0 1 := by
  refine ⟨?_, ?_, ?_, ?_, ?_, ?_, ?_⟩
  · exact ⟨by decide +kernel, by simp [Policy.catalog, Policy.catalogWith], by decide +kernel⟩
  · exact ⟨by decide +kernel, by simp [Policy.catalog, Policy.catalogWith], by decide +kernel⟩
  · exact ⟨by decide +kernel, by simp [Policy.catalog, Policy.catalogWith], by decide +kernel⟩
  · exact ⟨by decide +kernel, by simp [Policy.catalog, Policy.catalogWith], by decide +kernel⟩
  · exact ⟨by decide +kernel, by simp [Policy.catalog, Policy.catalogWith], by decide +kernel⟩
  · exact ⟨by decide +kernel, by simp [Policy.catalog, Policy.catalogWith], by decide +kernel⟩
  · exact ⟨by decide +kernel, by simp [Policy.catalog, Policy.catalogWith], by decide +kernel⟩

end Run

end Rechristen
