import Rechristen.Proofs.Policy.Undoing
import Rechristen.Proofs.Run.ReferenceIntegrity
import Rechristen.Proofs.Run.Visits

/-!
# A second run

A run follows all policies of the catalog once and then fixes the references.  If no wish was
refused on the way, the declarations are read again as they are then: under their new names, and
with what they extend as it is written now.  One expects that no policy wishes for anything any
more.  But a policy does so if a later one has undone it, or if the parent of a class has become an
exception by its name.  Those are the only reasons (`second_run`).
-/

namespace Rechristen

/-- `e` is the declaration `d`, which is called `name` now. -/
def Declaration.Now (d : Declaration) (name : Name) (e : Declaration) : Prop :=
  ∃ planned, e = { d with shortName := name, plannedPath := planned }

/-- A declaration as it is read again from a file with these references.  What it extends is written
in the reference at the place `parentAt`, and is looked up with the imports of the file. -/
def Declaration.readAgain (d : Declaration) (references : List Reference) (parentAt : Option Nat) :
    Declaration :=
  Sites.withParent references
    { d with parentWritten := (parentAt.bind (references[·]?)).map Reference.name }

namespace Policy

variable {p : Policy} {d e : Declaration} {name : Name}

/-- Apart from the name only the kind and the test matter to a policy. -/
theorem tryRename_congr {place : Place} (hname : e.shortName = d.shortName)
    (hkind : e.kind = d.kind) (hpasses : p.test.passes e place = p.test.passes d place) :
    p.tryRename e place = p.tryRename d place := by
  rw [tryRename, tryRename, appliesTo, appliesTo, hname, hkind, hpasses]

/-- The test of a policy comes out the same wherever the file of a declaration is planned to go. -/
def IgnoresPlan (p : Policy) : Prop :=
  ∀ d planned place,
    p.test.passes { d with plannedPath := planned } place = p.test.passes d place

/-- No policy of the catalog brings a test of its own. -/
theorem test_ne_custom {technology : String} (hp : p ∈ catalogWith technology)
    (accepts : Declaration → Place → Bool) : p.test ≠ .custom accepts := by
  simp only [catalogWith, List.mem_cons, List.not_mem_nil, or_false] at hp
  rcases hp with rfl | rfl | rfl | rfl | rfl | rfl | rfl | rfl | rfl | rfl | rfl | rfl | rfl
  all_goals exact fun htest => by cases htest

theorem ignoresPlan_of_mem_catalogWith {technology : String} (hp : p ∈ catalogWith technology) :
    p.IgnoresPlan := by
  intro d planned place
  cases htest : p.test with
  | any => rfl
  | abstract_ => rfl
  | exception => rfl
  | aggregate => rfl
  | custom accepts => exact absurd htest (test_ne_custom hp accepts)

theorem wishFor_of_now (hp : p.IgnoresPlan) (hnow : d.Now name e) (place : Place) :
    p.wishFor d place name = p.tryRename e place := by
  obtain ⟨planned, rfl⟩ := hnow
  unfold wishFor
  symm
  exact tryRename_congr rfl rfl (hp { d with shortName := name } planned place)

end Policy

/-- Fixing the references loses no file. -/
theorem References.exists_fixedAll {registry : Registry} {sources afterwards : List Source}
    {count : Nat} {notes : Notes}
    (hfix : fixAll registry sources = ⟨.ok count, (afterwards, notes)⟩)
    {file : Nat} {before : Source} (hbefore : sources[file]? = some before) :
    ∃ after, afterwards[file]? = some after := by
  unfold fixAll at hfix
  split at hfix
  · obtain ⟨-, hstate⟩ := Attempt.success_eq hfix
    obtain ⟨rfl, -⟩ := Prod.mk.inj hstate
    exact ⟨before, hbefore⟩
  · obtain ⟨after, _, _, hafter, -⟩ := Pass.overAll_ok hfix hbefore
    exact ⟨after, hafter⟩

namespace Run

open Session (Alike Renamed)

variable {p : Policy} {r r' : Run} {stop : Stop} {d e : Declaration} {name : Name}

/-! ## Nothing refused -/

/-- Every wish of a policy is granted at its turn, when declarations are visited one after the
other. -/
def grantsAll (p : Policy) (r : Run) : List Stop → Bool
  | [] => true
  | stop :: rest =>
    ((r.wish? p stop).all fun w => r.session.Grants w.id w.declaration w.new) &&
      grantsAll p (visit p r stop).state rest

/-- Every wish is granted at its turn while policies are followed. -/
def grantsEach (r : Run) : List Policy → Bool
  | [] => true
  | p :: rest => grantsAll p r r.stops && (r.follow p).state.grantsEach rest

/-! ## The names of a declaration -/

/-- What visits keep: the places of the files and their declarations, and a well-formed registry. -/
structure Kept (r r' : Run) : Prop where
  frames : r'.sources.map Source.frame = r.sources.map Source.frame
  registry : r'.session.registry.WellFormed

theorem kept_visit (hregistry : r.session.registry.WellFormed)
    (hvisit : visit p r stop = ⟨.ok (), r'⟩) : Kept r r' := by
  obtain ⟨hframes, ⟨halike, -⟩ | ⟨w, -, -, hrenamed, -⟩⟩ := visit_cases hregistry hvisit
  · exact ⟨hframes, by rwa [halike.registry]⟩
  · exact ⟨hframes, by rw [hrenamed.registry]; exact hregistry.register _ _⟩

/-- A visit to another declaration. -/
theorem visit_other (hregistry : r.session.registry.WellFormed)
    (hvisit : visit p r stop = ⟨.ok (), r'⟩) {id : DeclarationId} (hid : id ≠ stop.id) :
    r'.session.declarations[id]? = r.session.declarations[id]? := by
  obtain ⟨-, ⟨halike, -⟩ | ⟨w, hwish, -, hrenamed, -⟩⟩ := visit_cases hregistry hvisit
  · rw [halike.declarations]
  · exact hrenamed.get_other (by rwa [(wish?_eq_some hwish).1])

/-- A visit to the declaration itself, if a wish for it is granted. -/
theorem visit_now (hp : p.IgnoresPlan) (hregistry : r.session.registry.WellFormed)
    (hvisit : visit p r stop = ⟨.ok (), r'⟩)
    (hgrants : ∀ w ∈ r.wish? p stop, r.session.Grants w.id w.declaration w.new) {source : Source}
    (hsource : r.sources[stop.file]? = some source)
    (hfound : r.session.declarations[stop.id]? = some e) (hnow : d.Now name e) :
    ∃ e', r'.session.declarations[stop.id]? = some e' ∧
      d.Now (p.nameFor d (d.place (some source.relativePath)) name) e' := by
  have hplace : e.place (some source.relativePath) = d.place (some source.relativePath) := by
    obtain ⟨planned, rfl⟩ := hnow
    rfl
  have hwish : r.wish? p stop =
      (p.wishFor d (d.place (some source.relativePath)) name).map (Wish.mk stop.id e) := by
    rw [wish?, hsource, Option.bind_some, hfound, Option.bind_some, hplace,
      Policy.wishFor_of_now hp hnow]
  unfold Policy.nameFor
  obtain ⟨-, ⟨halike, hrefused⟩ | ⟨w, hw, -, hrenamed, -⟩⟩ := visit_cases hregistry hvisit
  · rw [halike.declarations]
    refine ⟨e, hfound, ?_⟩
    cases hnew : p.wishFor d (d.place (some source.relativePath)) name with
    | none => exact hnow
    | some new =>
        rw [hnew, Option.map_some] at hwish
        exact absurd (hgrants _ hwish) (hrefused _ hwish)
  · rw [hwish, Option.map_eq_some_iff] at hw
    obtain ⟨new, hnew, rfl⟩ := hw
    obtain ⟨planned, hset⟩ := hrenamed.declarations
    have hlt : stop.id < r.session.declarations.length :=
      (List.getElem?_eq_some_iff.1 hfound).1
    refine ⟨_, by rw [hset, List.getElem?_set_self hlt], ?_⟩
    obtain ⟨before, rfl⟩ := hnow
    rw [hnew]
    exact ⟨planned, rfl⟩

theorem kept_visitAll {order : List Stop} (hregistry : r.session.registry.WellFormed)
    (hvisit : visitAll p r order = ⟨.ok (), r'⟩) : Kept r r' := by
  induction order generalizing r with
  | nil =>
      obtain ⟨-, rfl⟩ := Attempt.success_eq hvisit
      exact ⟨rfl, hregistry⟩
  | cons stop rest ih =>
      rw [visitAll] at hvisit
      obtain ⟨_, middle, hfirst, hrest⟩ := Attempt.andThen_ok hvisit
      have hkept := kept_visit hregistry hfirst
      have hlater := ih hkept.registry hrest
      exact ⟨hlater.frames.trans hkept.frames, hlater.registry⟩

theorem visitAll_other {order : List Stop} (hregistry : r.session.registry.WellFormed)
    (hvisit : visitAll p r order = ⟨.ok (), r'⟩) {id : DeclarationId}
    (hid : id ∉ order.map Stop.id) :
    r'.session.declarations[id]? = r.session.declarations[id]? := by
  induction order generalizing r with
  | nil =>
      obtain ⟨-, rfl⟩ := Attempt.success_eq hvisit
      rfl
  | cons stop rest ih =>
      rw [visitAll] at hvisit
      obtain ⟨_, middle, hfirst, hrest⟩ := Attempt.andThen_ok hvisit
      rw [List.map_cons, List.mem_cons, not_or] at hid
      rw [ih (kept_visit hregistry hfirst).registry hrest hid.2, visit_other hregistry hfirst hid.1]

/-- Frames tell the file of a declaration in a later state. -/
theorem Kept.source (hkept : Kept r r') {file : Nat} {source : Source}
    (hsource : r.sources[file]? = some source) :
    ∃ source', r'.sources[file]? = some source' ∧ source'.relativePath = source.relativePath := by
  have hframe : r'.sources[file]?.map Source.frame = some source.frame := by
    rw [← List.getElem?_map, hkept.frames, List.getElem?_map, hsource, Option.map_some]
  obtain ⟨source', hsource', hsame⟩ := Option.map_eq_some_iff.1 hframe
  exact ⟨source', hsource', congrArg Prod.fst hsame⟩

/-- By induction on the order: the declaration is visited once, and the other visits leave it
alone. -/
theorem visitAll_now (hp : p.IgnoresPlan) {order : List Stop}
    (hregistry : r.session.registry.WellFormed)
    (hvisit : visitAll p r order = ⟨.ok (), r'⟩) (hgrants : grantsAll p r order = true)
    (honce : (order.map Stop.id).Nodup) (hstop : stop ∈ order) {source : Source}
    (hsource : r.sources[stop.file]? = some source)
    (hfound : r.session.declarations[stop.id]? = some e) (hnow : d.Now name e) :
    ∃ e', r'.session.declarations[stop.id]? = some e' ∧
      d.Now (p.nameFor d (d.place (some source.relativePath)) name) e' := by
  induction order generalizing r source with
  | nil => cases hstop
  | cons first rest ih =>
      rw [visitAll] at hvisit
      obtain ⟨_, middle, hfirst, hrest⟩ := Attempt.andThen_ok hvisit
      rw [grantsAll, hfirst, Bool.and_eq_true] at hgrants
      rw [List.map_cons, List.nodup_cons] at honce
      have hkept := kept_visit hregistry hfirst
      rcases List.mem_cons.1 hstop with rfl | hlater
      · rw [visitAll_other hkept.registry hrest honce.1]
        refine visit_now hp hregistry hfirst (fun w hw => ?_) hsource hfound hnow
        rw [Option.mem_def.1 hw] at hgrants
        exact of_decide_eq_true hgrants.1
      · have hid : stop.id ≠ first.id := by
          intro hsame
          exact honce.1 (hsame ▸ List.mem_map_of_mem hlater)
        obtain ⟨source', hsource', hpath⟩ := hkept.source hsource
        rw [← hpath]
        exact ih hkept.registry hrest hgrants.2 honce.2 hlater hsource'
          ((visit_other hregistry hfirst hid).trans hfound)

/-- The pass of a policy. -/
theorem follow_now (hp : p.IgnoresPlan) (hregistry : r.session.registry.WellFormed)
    (hfollow : r.follow p = ⟨.ok (), r'⟩) (hgrants : grantsAll p r r.stops = true)
    (honce : (r.stops.map Stop.id).Nodup)
    (hstop : stop ∈ r.stops) {source : Source} (hsource : r.sources[stop.file]? = some source)
    (hfound : r.session.declarations[stop.id]? = some e) (hnow : d.Now name e) :
    Kept r r' ∧ ∃ e', r'.session.declarations[stop.id]? = some e' ∧
      d.Now (p.nameFor d (d.place (some source.relativePath)) name) e' := by
  obtain ⟨left, hvisit, halike, hsources⟩ := follow_visitAll hfollow
  have hkept := kept_visitAll hregistry hvisit
  refine ⟨⟨by rw [hsources]; exact hkept.frames, by rw [halike.registry]; exact hkept.registry⟩, ?_⟩
  rw [halike.declarations]
  exact visitAll_now hp hregistry hvisit hgrants honce hstop hsource hfound hnow

/-- **The name of a declaration.**  If nothing is refused while policies are followed, the name of a
declaration is what they make of it one after the other. -/
theorem followAll_now {policies : List Policy} (hpolicies : ∀ p ∈ policies, p.IgnoresPlan)
    (hregistry : r.session.registry.WellFormed)
    (hfollow : r.followAll policies = ⟨.ok (), r'⟩) (hgrants : r.grantsEach policies = true)
    (honce : (r.stops.map Stop.id).Nodup) (hstop : stop ∈ r.stops) {source : Source}
    (hsource : r.sources[stop.file]? = some source)
    (hfound : r.session.declarations[stop.id]? = some e) (hnow : d.Now name e) :
    Kept r r' ∧ ∃ e', r'.session.declarations[stop.id]? = some e' ∧
      d.Now (Policy.nameAfter d (d.place (some source.relativePath)) name policies) e' := by
  induction policies generalizing r source name e with
  | nil =>
      obtain ⟨-, rfl⟩ := Attempt.success_eq hfollow
      exact ⟨⟨rfl, hregistry⟩, e, hfound, hnow⟩
  | cons p rest ih =>
      obtain ⟨hfirstPlan, hrestPlan⟩ := List.forall_mem_cons.1 hpolicies
      rw [followAll] at hfollow
      obtain ⟨_, middle, hfirst, hrest⟩ := Attempt.andThen_ok hfollow
      rw [grantsEach, hfirst, Bool.and_eq_true] at hgrants
      obtain ⟨hkept, e', hfound', hnow'⟩ :=
        follow_now hfirstPlan hregistry hfirst hgrants.1 honce hstop hsource hfound hnow
      obtain ⟨source', hsource', hpath⟩ := hkept.source hsource
      have hstops : middle.stops = r.stops := stopsFrom_congr hkept.frames
      rw [hpath.symm] at hnow' ⊢
      obtain ⟨hlater, hlast⟩ := ih hrestPlan hkept.registry hrest hgrants.2 (by rwa [hstops])
        (by rwa [hstops]) hsource' hfound' hnow'
      exact ⟨⟨hlater.frames.trans hkept.frames, hlater.registry⟩, hlast⟩

/-! ## Each declaration once -/

/-- The declarations of files are counted through. -/
theorem declarations_receiveAll (r : Run) (files : List (Source × Sites)) :
    (receiveAll r files).sources.flatMap Source.declarations =
      r.sources.flatMap Source.declarations ++
        List.range' r.session.declarations.length (declared files).length := by
  induction files generalizing r with
  | nil => simp [receiveAll, declared]
  | cons file rest ih =>
      have hsources : (r.receive file.1 file.2).sources.flatMap Source.declarations =
          r.sources.flatMap Source.declarations ++
            List.range' r.session.declarations.length file.2.declarations.length := by
        simp [receive, Source.withSites]
      have hlength : (r.receive file.1 file.2).session.declarations.length =
          r.session.declarations.length + file.2.declarations.length := List.length_append
      have hdeclared : (declared (file :: rest)).length =
          file.2.declarations.length + (declared rest).length := by
        simp [declared]
      have hrest := ih (r.receive file.1 file.2)
      rw [hsources, hlength, List.append_assoc, List.range'_append_1, ← hdeclared] at hrest
      exact hrest

variable {dryRun : Bool} {collision : CollisionPolicy} {files : List (Source × Sites)}

theorem opened_ids :
    (opened dryRun collision files).sources.flatMap Source.declarations =
      List.range' 0 (declared files).length :=
  declarations_receiveAll ⟨{ dryRun, collision }, []⟩ files

theorem opened_once : ((opened dryRun collision files).stops.map Stop.id).Nodup := by
  rw [stops, map_id_stopsFrom, opened_ids]
  exact List.nodup_range'

theorem exists_declared {file : Nat} {source : Source}
    (hsource : (opened dryRun collision files).sources[file]? = some source) {id : DeclarationId}
    (hid : id ∈ source.declarations) : ∃ first, (declared files)[id]? = some first := by
  have hmem : id ∈ (opened dryRun collision files).sources.flatMap Source.declarations :=
    List.mem_flatMap.2 ⟨source, List.mem_of_getElem? hsource, hid⟩
  rw [opened_ids, List.mem_range'_1, Nat.zero_add] at hmem
  exact ⟨_, List.getElem?_eq_getElem hmem.2⟩

/-! ## Read again -/

/-- A declaration of a file as it is read again after a run. -/
def retaken? (r : Run) (file : Nat) (id : DeclarationId) (parentAt : Option Nat) :
    Option Declaration :=
  r.sources[file]?.bind fun source =>
    r.session.declarations[id]?.map fun d => d.readAgain source.references parentAt

/-- Only one policy of the catalog looks at what a declaration extends. -/
theorem eq_exceptionEnding {technology : String} (hp : p ∈ Policy.catalogWith technology)
    (htest : p.test = .exception) : p = Policy.exceptionEnding := by
  simp only [Policy.catalogWith, List.mem_cons, List.not_mem_nil, or_false] at hp
  rcases hp with rfl | rfl | rfl | rfl | rfl | rfl | rfl | rfl | rfl | rfl | rfl | rfl | rfl
  case inr.inr.inr.inl => rfl
  all_goals cases htest

/-- What the policy for exceptions asks of a declaration. -/
theorem tryRename_exceptionEnding_iff {place : Place} :
    Policy.exceptionEnding.tryRename d place ≠ none ↔
      d.kind = .class_ ∧ Test.extendsException d = true ∧
        Text.ends d.shortName Test.exceptionEnding = false := by
  have hcontent : Policy.exceptionEnding.rule.Content d.shortName ↔
      Text.ends d.shortName Test.exceptionEnding = true := Rule.content_iff_ends rfl
  have happlies : Policy.exceptionEnding.appliesTo d place = true ↔
      d.kind = .class_ ∧ Test.extendsException d = true := by
    simp [Policy.appliesTo, Policy.exceptionEnding, Test.passes]
  rw [← and_assoc, ← happlies, ← Bool.not_eq_true, ← hcontent]
  constructor
  · intro hwish
    obtain ⟨new, hnew⟩ := Option.ne_none_iff_exists'.1 hwish
    obtain ⟨hmeant, hchanges⟩ := Policy.tryRename_eq_some_iff.1 hnew
    exact ⟨hmeant, fun hcontent => hcontent new hchanges⟩
  · rintro ⟨hmeant, hdiscontent⟩ hnone
    refine hdiscontent fun new hchanges => ?_
    rw [Policy.tryRename_eq_some_iff.2 ⟨hmeant, hchanges⟩] at hnone
    cases hnone

/-- Reading a declaration again changes nothing that a policy of the catalog looks at, except that
the test for exceptions may come out otherwise. -/
theorem tryRename_readAgain_iff {technology : String} (hp : p ∈ Policy.catalogWith technology)
    (hnow : d.Now name e) {place : Place} {references : List Reference} {parentAt : Option Nat}
    {again : Declaration} (hagain : e.readAgain references parentAt = again) :
    p.tryRename again place ≠ none ↔
      (p.wishFor d place name ≠ none ∧ p.test.passes again place = true) ∨
      (p = Policy.exceptionEnding ∧ d.kind = .class_ ∧ Test.extendsException d = false ∧
        Test.extendsException again = true ∧ Text.ends name Test.exceptionEnding = false) := by
  obtain ⟨planned, rfl⟩ := hnow
  have hname : again.shortName = name := by rw [← hagain]; rfl
  have hkind : again.kind = d.kind := by rw [← hagain]; rfl
  have habstract : again.isAbstract = d.isAbstract := by rw [← hagain]; rfl
  by_cases htest : p.test = .exception
  · obtain rfl := eq_exceptionEnding hp htest
    have hwish : Policy.exceptionEnding.wishFor d place name ≠ none ↔
        d.kind = .class_ ∧ Test.extendsException d = true ∧
          Text.ends name Test.exceptionEnding = false :=
      tryRename_exceptionEnding_iff
    rw [tryRename_exceptionEnding_iff, hwish, hname, hkind, htest]
    constructor
    · rintro ⟨hclass, hafter, hends⟩
      cases hbefore : Test.extendsException d with
      | false => exact Or.inr ⟨rfl, hclass, rfl, hafter, hends⟩
      | true => exact Or.inl ⟨⟨hclass, rfl, hends⟩, hafter⟩
    · rintro (⟨⟨hclass, -, hends⟩, hafter⟩ | ⟨-, hclass, -, hafter, hends⟩)
      · exact ⟨hclass, hafter, hends⟩
      · exact ⟨hclass, hafter, hends⟩
  · -- No other test reads what the references tell of the class that is extended.
    have hsame : p.tryRename again place = p.wishFor d place name := by
      refine Policy.tryRename_congr (d := { d with shortName := name }) hname hkind ?_
      cases hcase : p.test with
      | exception => exact absurd hcase htest
      | any => rfl
      | abstract_ => exact habstract
      | aggregate => rw [Test.passes, Test.passes, hname, habstract]
      | custom accepts => exact absurd hcase (Policy.test_ne_custom hp accepts)
    constructor
    · intro hwish
      obtain ⟨new, hnew⟩ := Option.ne_none_iff_exists'.1 hwish
      have happlies := (Policy.tryRename_eq_some_iff.1 hnew).1
      rw [Policy.appliesTo, Bool.and_eq_true] at happlies
      exact Or.inl ⟨hsame ▸ hwish, happlies.2⟩
    · rintro (⟨hwish, -⟩ | ⟨rfl, -⟩)
      · rwa [hsame]
      · exact absurd rfl htest

/-- **A second run.**  Read files, follow all policies of the catalog and fix the references, and
suppose that no wish was refused.  Read a declaration of a file again: it has its last name, and its
parent is the reference at the place `parentAt` as it is written in the end.  A policy of the
catalog then wishes for another name in two cases only.  A later policy has undone it in the first
run, and it is still meant for the declaration; the two are one of eight pairs.  Or it is the policy
for exceptions, and what the class extends is called like one now but was not at first, while the
class itself is not. -/
theorem second_run {technology : String} {followed fixed : Run} {count : Nat}
    (hfollow : (opened dryRun collision files).followAll (Policy.catalogWith technology) =
      ⟨.ok (), followed⟩)
    (hgrants : (opened dryRun collision files).grantsEach (Policy.catalogWith technology) = true)
    (hfix : followed.fixReferences = ⟨.ok count, fixed⟩) {file : Nat} {source : Source}
    (hsource : (opened dryRun collision files).sources[file]? = some source) {id : DeclarationId}
    (hid : id ∈ source.declarations) (parentAt : Option Nat) :
    ∃ first again, (declared files)[id]? = some first ∧
      fixed.retaken? file id parentAt = some again ∧
      ∀ p ∈ Policy.catalogWith technology,
        (p.tryRename again (again.place (some source.relativePath)) ≠ none ↔
          (∃ q, (p, q) ∈ Policy.undoings first (first.place (some source.relativePath))
              first.shortName (Policy.catalogWith technology)) ∧
            p.test.passes again (again.place (some source.relativePath)) = true ∨
          p = Policy.exceptionEnding ∧ first.kind = .class_ ∧
            Test.extendsException first = false ∧ Test.extendsException again = true ∧
            Text.ends again.shortName Test.exceptionEnding = false) ∧
        ∀ q, (p, q) ∈ Policy.undoings first (first.place (some source.relativePath))
            first.shortName (Policy.catalogWith technology) →
          (p.name, q.name) ∈ Policy.undoing := by
  have hregistry : (opened dryRun collision files).session.registry.WellFormed := by
    rw [opened_registry]
    exact Registry.WellFormed.empty
  have hstop : ⟨file, id⟩ ∈ (opened dryRun collision files).stops := by
    have hmem := mem_stopsFrom hsource hid 0
    rwa [Nat.zero_add] at hmem
  obtain ⟨first, hfirst⟩ := exists_declared hsource hid
  -- The last name is what the policies make of the first one, one after the other.
  obtain ⟨hkept, last, hlast, hnow⟩ := followAll_now
    (fun p hp => Policy.ignoresPlan_of_mem_catalogWith hp) hregistry hfollow hgrants opened_once
    hstop hsource (by rw [opened_declarations, hfirst])
    (show first.Now first.shortName first from ⟨first.plannedPath, rfl⟩)
  obtain ⟨before, hbefore, -⟩ := hkept.source hsource
  obtain ⟨-, hdeclarations, notes, hall⟩ := fixReferences_ok hfix
  obtain ⟨after, hafter⟩ := References.exists_fixedAll hall hbefore
  generalize hagain : last.readAgain after.references parentAt = again
  refine ⟨first, again, hfirst, ?_, fun p hp => ⟨?_, fun q hundone => ?_⟩⟩
  · rw [retaken?, hafter, Option.bind_some, hdeclarations, hlast, Option.map_some, hagain]
  · obtain ⟨hplace, hname⟩ : again.place (some source.relativePath) =
        first.place (some source.relativePath) ∧ again.shortName = Policy.nameAfter first
          (first.place (some source.relativePath)) first.shortName
          (Policy.catalogWith technology) := by
      obtain ⟨planned, rfl⟩ := hnow
      rw [← hagain]
      exact ⟨rfl, rfl⟩
    rw [hplace, hname, tryRename_readAgain_iff hp hnow hagain,
      Policy.wishFor_nameAfter_iff (fun q hq => Policy.calm_of_mem_catalogWith hq) hp]
  · refine Policy.mem_undoing ?_ hundone
    rw [Policy.profile_catalogWith]
    exact Policy.accord_catalog

/-! ### A policy undone, and a parent that becomes an exception -/

/-- A file with one class, and with what it extends as its only reference. -/
def childFile (space name : Name) (isAbstract : Bool) (parent : Name) : Source × Sites :=
  let (source, sites) := fileIn space [(.class_, name)]
    [(if parent.isCompound then .qualified else .bare, parent)]
  let extending (d : Declaration) : Declaration :=
    Sites.withParent sites.references { d with isAbstract, parentWritten := some parent }
  (source, { sites with declarations := sites.declarations.map extending })

/-- An exception, its child, and an exception among specifications. -/
def relapsing : List (Source × Sites) :=
  [childFile "App" "Failure" false "\\Exception", childFile "App" "Outage" false "Failure",
    childFile "Specification" "FooException" false "\\Exception"]

/-- The passes of all policies over these files. -/
def relapsingPasses : Attempt Run Unit :=
  (opened false .firstWins relapsing).followAll (Policy.catalogWith Policy.defaultTechnology)

/-- What a policy wishes for the class of a file when it is read again. -/
def wishAgain (p : Policy) (file : Nat) : Option Name :=
  (relapsingPasses.state.fixReferences.state.retaken? file file (some 0)).bind fun again =>
    p.tryRename again (again.place (some ⟨"", ["F"]⟩))

/-- The first class has its name for good.  The others are renamed in the next run: the child
follows its parent, and the exception among specifications gets both endings once more. -/
theorem second_run_relapsing :
    (opened false .firstWins relapsing).grantsEach (Policy.catalogWith Policy.defaultTechnology) ∧
    (∀ p ∈ Policy.catalogWith Policy.defaultTechnology, wishAgain p 0 = none) ∧
    wishAgain Policy.exceptionEnding 1 = some "OutageException" ∧
    wishAgain Policy.exceptionEnding 2 = some "FooExceptionSpecificationException" := by
  -- One evaluation of the run for all that is to be computed.
  obtain ⟨hgrants, hpasses, hfixes, hsome, hfile, hundone, hparent, hchild, hspecification⟩ :
      (opened false .firstWins relapsing).grantsEach
        (Policy.catalogWith Policy.defaultTechnology) = true ∧
      relapsingPasses.failure? = none ∧ relapsingPasses.state.fixReferences.failure? = none ∧
      ((opened false .firstWins relapsing).sources[0]?).isSome ∧
      (∀ source ∈ (opened false .firstWins relapsing).sources[0]?,
        0 ∈ source.declarations ∧ source.relativePath = ⟨"", ["F"]⟩) ∧
      (∀ d ∈ (declared relapsing)[0]?, Policy.undoings d (d.place (some ⟨"", ["F"]⟩)) d.shortName
        (Policy.catalogWith Policy.defaultTechnology) = []) ∧
      (∀ d ∈ (declared relapsing)[0]?, Test.extendsException d = true) ∧
      wishAgain Policy.exceptionEnding 1 = some "OutageException" ∧
      wishAgain Policy.exceptionEnding 2 = some "FooExceptionSpecificationException" := by
    decide +kernel
  refine ⟨hgrants, fun p hp => ?_, hchild, hspecification⟩
  obtain ⟨⟨⟩, hfollow⟩ := Attempt.exists_ok hpasses
  obtain ⟨count, hfix⟩ := Attempt.exists_ok hfixes
  obtain ⟨source, hsource⟩ := Option.isSome_iff_exists.1 hsome
  obtain ⟨hid, hpath⟩ := hfile source hsource
  obtain ⟨first, again, hfirst, hagain, hall⟩ :=
    second_run hfollow hgrants hfix hsource hid (some 0)
  have hwish : p.tryRename again (again.place (some ⟨"", ["F"]⟩)) = none := by
    simpa [hpath, hundone first hfirst, hparent first hfirst] using (hall p hp).1
  rw [wishAgain, hagain, Option.bind_some, hwish]

end Run

end Rechristen
