import Rechristen.Proofs.Run.Following

/-!
# References after a run

A run reads files, follows policies and fixes the references.  A reference that stood for a declared
class at first stands for the same class in the end, under its last name (`meaning_preserved`).
This is so for every reference that nothing on the way disturbs (`Undisturbed`).

Each condition is there for a reason, and files that violate it show that the reference then goes
astray (`references_astray`).  A new name is caught by an import, an eager policy guesses a name
that the class never gets, a class takes the name that another one gave up, or a class that is not
declared happens to have a name that a declared one had for a while.  An import can be renamed under
a longer name that builds on it, a new name can be a word that is never looked up, and in a group
the characters can be miscounted.
-/

namespace Rechristen

/-- What is found in a file of the language: declarations have short names, bare names are single
segments, and groups have a namespace. -/
structure Sites.WellFormed (sites : Sites) : Prop where
  short : ∀ d ∈ sites.declarations, d.shortName.IsShort
  references : ∀ site ∈ sites.references, References.WellFormed site

instance (sites : Sites) : Decidable sites.WellFormed :=
  decidable_of_iff ((∀ d ∈ sites.declarations, d.shortName.IsShort) ∧
      ∀ site ∈ sites.references, References.WellFormed site)
    ⟨fun h => ⟨h.1, h.2⟩, fun h => ⟨h.short, h.references⟩⟩

namespace Run

/-! ## The start -/

/-- The run with files, each with the sites found in it. -/
def receiveAll (r : Run) (files : List (Source × Sites)) : Run :=
  files.foldl (fun r file => r.receive file.1 file.2) r

/-- A new run that has read files and entered their declarations into the table. -/
def opened (dryRun : Bool) (collision : CollisionPolicy) (files : List (Source × Sites)) : Run :=
  (receiveAll ⟨{ dryRun, collision }, []⟩ files).buildTable

/-- The declarations of files, in the order in which a run counts them. -/
def declared (files : List (Source × Sites)) : List Declaration :=
  files.flatMap fun file => file.2.declarations

/-- Every declaration of the session belongs to a file. -/
def Covered (r : Run) : Prop :=
  ∀ id < r.session.declarations.length, id ∈ r.sources.flatMap Source.declarations

theorem covered_receive {r : Run} (hcovered : r.Covered) (source : Source) (sites : Sites) :
    (r.receive source sites).Covered := by
  intro id hid
  have hlength : (r.receive source sites).session.declarations.length =
      r.session.declarations.length + sites.declarations.length := List.length_append
  have hsources : (r.receive source sites).sources.flatMap Source.declarations =
      r.sources.flatMap Source.declarations ++
        List.range' r.session.declarations.length sites.declarations.length := by
    simp [receive, Source.withSites]
  rw [hlength] at hid
  rw [hsources, List.mem_append]
  by_cases hold : id < r.session.declarations.length
  · exact Or.inl (hcovered id hold)
  · right
    rw [List.mem_range'_1]
    omega

theorem receiveAll_spec (r : Run) (files : List (Source × Sites)) :
    (receiveAll r files).session.registry = r.session.registry ∧
    (receiveAll r files).session.table = r.session.table ∧
    (receiveAll r files).session.declarations = r.session.declarations ++ declared files ∧
    (receiveAll r files).sources.map Source.references =
      r.sources.map Source.references ++ files.map (fun file => file.2.references) ∧
    (r.Covered → (receiveAll r files).Covered) := by
  induction files generalizing r with
  | nil => simp [receiveAll, declared]
  | cons file rest ih =>
      obtain ⟨hregistry, htable, hdeclarations, hreferences, hcovered⟩ :=
        ih (r.receive file.1 file.2)
      have hdeclared : declared (file :: rest) = file.2.declarations ++ declared rest := rfl
      refine ⟨hregistry, htable, hdeclarations.trans ?_, hreferences.trans ?_,
        fun hr => hcovered (covered_receive hr file.1 file.2)⟩
      · rw [hdeclared, ← List.append_assoc]
        rfl
      · simp [receive, Source.withSites]

variable {dryRun : Bool} {collision : CollisionPolicy} {files : List (Source × Sites)}

theorem opened_registry : (opened dryRun collision files).session.registry = {} :=
  (Session.indexAll_registry _ _).trans (receiveAll_spec _ files).1

theorem opened_declarations :
    (opened dryRun collision files).session.declarations = declared files :=
  (Session.indexAll_declarations _ _).trans (receiveAll_spec _ files).2.2.1

theorem opened_references :
    (opened dryRun collision files).sources.map Source.references =
      files.map fun file => file.2.references :=
  (receiveAll_spec _ files).2.2.2.1

theorem opened_formed (hformed : ∀ file ∈ files, file.2.WellFormed) :
    ∀ source ∈ (opened dryRun collision files).sources, source.Formed := by
  intro source hsource
  have hreferences := List.mem_map_of_mem (f := Source.references) hsource
  rw [opened_references] at hreferences
  obtain ⟨file, hfile, hsame⟩ := List.mem_map.1 hreferences
  unfold Source.Formed
  rw [← hsame]
  exact (hformed file hfile).references

theorem opened_coherent (hdistinct : ((declared files).map Declaration.key).Nodup) :
    (opened dryRun collision files).session.Coherent := by
  obtain ⟨hregistry, htable, hdeclarations, -, hcovered⟩ :=
    receiveAll_spec ⟨{ dryRun, collision }, []⟩ files
  have hindexed : (receiveAll ⟨{ dryRun, collision }, []⟩ files).session.indexAll
      ((receiveAll ⟨{ dryRun, collision }, []⟩ files).sources.flatMap
        Source.declarations) |>.Coherent := by
    refine Session.coherent_indexAll hregistry htable ?_ (hcovered ?_)
    · rwa [hdeclarations]
    · intro id hid
      cases hid
  exact hindexed.congr (Session.SameNames.note _ _)

theorem opened_tidy (hformed : ∀ file ∈ files, file.2.WellFormed) :
    (opened dryRun collision files).session.Tidy where
  short id d hd := by
    rw [opened_declarations] at hd
    obtain ⟨file, hfile, hmem⟩ := List.mem_flatMap.1 (List.mem_of_getElem? hd)
    exact (hformed file hfile).short d hmem
  registry := by
    rw [opened_registry]
    exact Registry.Tidy.empty

/-! ## The end -/

/-- Fixing the references renames nothing. -/
theorem fixReferences_ok {r r' : Run} {count : Nat} (hfix : r.fixReferences = ⟨.ok count, r'⟩) :
    r'.session.registry = r.session.registry ∧ r'.session.declarations = r.session.declarations ∧
      ∃ notes, References.fixAll r.session.registry r.sources =
        ⟨.ok count, (r'.sources, notes)⟩ := by
  unfold fixReferences at hfix
  obtain ⟨⟨n, diagnostics⟩, middle, hstage, hrest⟩ := Attempt.andThen_ok hfix
  obtain ⟨rfl, rfl⟩ := Attempt.success_eq hrest
  obtain ⟨events, made, hmake, rfl⟩ := stage_ok hstage
  generalize hall : References.fixAll r.session.registry r.sources = attempt at hmake
  obtain ⟨result, sources, notes⟩ := attempt
  cases result with
  | error cause => simp [make, Except.map] at hmake
  | ok m =>
      simp only [make, Except.map, Attempt.mk.injEq, Except.ok.injEq, Prod.mk.injEq] at hmake
      obtain ⟨⟨rfl, -⟩, rfl⟩ := hmake
      exact ⟨rfl, rfl, notes, rfl⟩

/-- What the reference at a place of a file stands for. -/
def meaningAt? (r : Run) (file i : Nat) : Option Name.Key :=
  r.sources[file]?.bind fun source =>
    source.references[i]?.map fun site => (site.meaning source.references).key

theorem meaningAt?_eq_some {r : Run} {file i : Nat} {key : Name.Key}
    (hmeaning : r.meaningAt? file i = some key) :
    ∃ source site, r.sources[file]? = some source ∧ source.references[i]? = some site ∧
      (site.meaning source.references).key = key := by
  obtain ⟨source, hsource, hmeaning⟩ := Option.bind_eq_some_iff.1 hmeaning
  obtain ⟨site, hsite, hkey⟩ := Option.map_eq_some_iff.1 hmeaning
  exact ⟨source, site, hsource, hsite, hkey⟩

/-- Nothing disturbs the reference at a place of a file, from `r` on: neither the calls made for the
file while policies are followed, up to `followed`, nor the fixing of references, up to `fixed`. -/
structure Undisturbed (r : Run) (policies : List Policy) (followed fixed : Run) (file i : Nat) :
    Prop where
  visits : ∀ v ∈ visitsAt file r policies, v.Keeps followed.session.registry i
  fixing : ∀ before ∈ followed.sources[file]?, ∀ after ∈ fixed.sources[file]?,
    Reference.KeepsBindingAt before.references after.references i

instance (r : Run) (policies : List Policy) (followed fixed : Run) (file i : Nat) :
    Decidable (Undisturbed r policies followed fixed file i) :=
  decidable_of_iff ((∀ v ∈ visitsAt file r policies, v.Keeps followed.session.registry i) ∧
      ∀ before ∈ followed.sources[file]?, ∀ after ∈ fixed.sources[file]?,
        Reference.KeepsBindingAt before.references after.references i)
    ⟨fun h => ⟨h.1, h.2⟩, fun h => ⟨h.visits, h.fixing⟩⟩

/-- In the end an undisturbed reference stands for what the registry tells of what it stood for at
first. -/
theorem meaningAt?_fixed {r followed fixed : Run} {policies : List Policy} {count : Nat}
    (hs : r.session.Coherent) (htidy : r.session.Tidy) (hplain : ∀ p ∈ policies, p.rule.Plain)
    (hformed : ∀ source ∈ r.sources, source.Formed)
    (hfollow : r.followAll policies = ⟨.ok (), followed⟩)
    (hfix : followed.fixReferences = ⟨.ok count, fixed⟩) {file i : Nat}
    (hundisturbed : Undisturbed r policies followed fixed file i) {key : Name.Key}
    (hmeaning : r.meaningAt? file i = some key) :
    fixed.meaningAt? file i = some (fixed.session.registry.present key) := by
  obtain ⟨start, site, hstart, hsite, hkey⟩ := meaningAt?_eq_some hmeaning
  obtain ⟨hregistry, -, notes, hall⟩ := fixReferences_ok hfix
  obtain ⟨hreaches, hcourses⟩ := followAll_course hplain htidy hfollow
  obtain ⟨before, hbefore, hcourse⟩ := hcourses file start hstart
  obtain ⟨b, hb, hleads⟩ := hcourse.leadsAt hs htidy hundisturbed.visits ⟨site, hsite, rfl⟩
  obtain ⟨after, a, hafter, ha, hmeans⟩ :=
    References.meaning_fixedAll (htidy.reaches hreaches).registry hall hbefore
      (hcourse.formed (hformed start (List.mem_of_getElem? hstart))) hb
  have hkeeps := hundisturbed.fixing before hbefore after hafter b hb a ha
  simp only [meaningAt?, hafter, ha, Option.bind_some, Option.map_some]
  rw [hmeans hkeeps, hleads, hkey, hregistry]

/-- **Reference integrity.**  Read files whose declarations have different keys, follow policies of
the catalog and fix the references.  An undisturbed reference that stood for a declared class stands
for it in the end, under the name it has then.  One that stood for a name that the registry does not
lead away from stands for that name still. -/
theorem meaning_preserved {dryRun : Bool} {collision : CollisionPolicy}
    {files : List (Source × Sites)} (hformed : ∀ file ∈ files, file.2.WellFormed)
    (hdistinct : ((declared files).map Declaration.key).Nodup)
    {technology : String} (htechnology : Name.isCompound technology = false)
    {policies : List Policy} (hpolicies : ∀ p ∈ policies, p ∈ Policy.catalogWith technology)
    {followed fixed : Run} {count : Nat}
    (hfollow : (opened dryRun collision files).followAll policies = ⟨.ok (), followed⟩)
    (hfix : followed.fixReferences = ⟨.ok count, fixed⟩) {file i : Nat}
    (hundisturbed : Undisturbed (opened dryRun collision files) policies followed fixed file i) :
    (∀ (id : DeclarationId) (first : Declaration), (declared files)[id]? = some first →
      (opened dryRun collision files).meaningAt? file i = some first.key →
        ∃ last, fixed.session.declarations[id]? = some last ∧
          fixed.meaningAt? file i = some last.key) ∧
    ∀ name : Name, fixed.session.registry.contains name = false →
      (opened dryRun collision files).meaningAt? file i = some name.key →
        fixed.meaningAt? file i = some name.key := by
  have hs : (opened dryRun collision files).session.Coherent := opened_coherent hdistinct
  have htidy : (opened dryRun collision files).session.Tidy := opened_tidy hformed
  have hplain : ∀ p ∈ policies, p.rule.Plain :=
    fun p hp => Policy.plain_of_mem_catalogWith htechnology (hpolicies p hp)
  have hfixed : ∀ key, (opened dryRun collision files).meaningAt? file i = some key →
      fixed.meaningAt? file i = some (fixed.session.registry.present key) :=
    fun key => meaningAt?_fixed hs htidy hplain (opened_formed hformed) hfollow hfix hundisturbed
  obtain ⟨hregistry, hdeclarations, -⟩ := fixReferences_ok hfix
  constructor
  · intro id first hfirst hmeaning
    obtain ⟨hreaches, -⟩ := followAll_course hplain htidy hfollow
    have hleads : (opened dryRun collision files).session.Leads first.key id :=
      Session.leads_of_registry_empty opened_registry (by rw [opened_declarations, hfirst])
    obtain ⟨last, hlast, hpresent⟩ := hs.leads_reaches hreaches hleads
    exact ⟨last, by rw [hdeclarations, hlast], by rw [hfixed _ hmeaning, hregistry, hpresent]⟩
  · intro name hfree hmeaning
    have hnone : fixed.session.registry.find? name.key = none := by
      simpa [Registry.contains] using hfree
    rw [hfixed _ hmeaning, Registry.present_of_find?_none hnone]

/-! ### A guess that is borne out, and an import -/

/-- A file of a namespace, with its declarations and its references. -/
def fileIn (space : Name) (declarations : List (Kind × Name))
    (references : List (ReferenceKind × Name)) : Source × Sites :=
  ({ path := ⟨"", ["F"]⟩, content := [] },
    { space
      declarations := declarations.map fun d =>
        { shortName := d.2, space, kind := d.1, path := ⟨"", ["F"]⟩ }
      references := references.zipIdx.map fun r =>
        { name := r.1.2, kind := r.1.1, span := Span.point r.2, space } })

/-- The first file guesses the new name of the class in the second one, and imports it. -/
def guessedRight : List (Source × Sites) :=
  [fileIn "ValueObject" [(.class_, "AValue")]
      [(.import_, "ValueObject\\BValue"), (.bare, "BValue")],
    fileIn "ValueObject" [(.class_, "BValue")] []]

theorem meaning_preserved_guessedRight :
    ∃ followed fixed count, (opened false .firstWins guessedRight).followAll
        [Policy.valueObject] = ⟨.ok (), followed⟩ ∧
      followed.fixReferences = ⟨.ok count, fixed⟩ ∧
      ∃ last, fixed.session.declarations[1]? = some last ∧
        fixed.meaningAt? 0 1 = some last.key := by
  have hformed : ∀ file ∈ guessedRight, file.2.WellFormed := by decide +kernel
  have hdistinct : ((declared guessedRight).map Declaration.key).Nodup := by decide +kernel
  have htechnology : Name.isCompound Policy.defaultTechnology = false := by decide +kernel
  have hpolicies : ∀ p ∈ [Policy.valueObject], p ∈ Policy.catalogWith Policy.defaultTechnology := by
    simp [Policy.catalogWith]
  obtain ⟨_, hfollow⟩ := Attempt.exists_ok (a := (opened false .firstWins guessedRight).followAll
    [Policy.valueObject]) (by decide +kernel)
  obtain ⟨count, hfix⟩ := Attempt.exists_ok (a := ((opened false .firstWins
    guessedRight).followAll [Policy.valueObject]).state.fixReferences) (by decide +kernel)
  obtain ⟨hdeclared, -⟩ := meaning_preserved hformed hdistinct htechnology hpolicies hfollow hfix
    (show Undisturbed _ _ _ _ 0 1 by decide +kernel)
  exact ⟨_, _, count, hfollow, hfix, hdeclared 1 _ rfl (by decide +kernel)⟩

/-! ## References that go astray -/

/-- What a reference to the class with a key should stand for after a run: if the class is declared,
the name it has then. -/
def expected (files : List (Source × Sites)) (last : Run) (key : Name.Key) : Name.Key :=
  (((declared files).findIdx? (·.key = key)).bind (last.session.declarations[·]?)).elim key
    Declaration.key

/-- A run succeeds, and the reference at a place does not stand for what it should. -/
def Strays (files : List (Source × Sites)) (policies : List Policy) (file i : Nat) : Prop :=
  match ((opened false .firstWins files).followAll policies).andThen fun _ r => r.fixReferences with
  | ⟨.error _, _⟩ => False
  | ⟨.ok _, last⟩ => last.meaningAt? file i ≠
      ((opened false .firstWins files).meaningAt? file i).map (expected files last)

instance (files : List (Source × Sites)) (policies : List Policy) (file i : Nat) :
    Decidable (Strays files policies file i) := by
  unfold Strays
  split <;> infer_instance

/-- A run of catalog policies over files with different declarations, in which the reference at a
place goes astray. -/
def Astray (files : List (Source × Sites)) (policies : List Policy) (file i : Nat) : Prop :=
  ((declared files).map Declaration.key).Nodup ∧ (∀ p ∈ policies, p ∈ Policy.catalog) ∧
    Strays files policies file i

/-- The guessed class is an interface, which the policy does not rename. -/
def guessedWrong : List (Source × Sites) :=
  [fileIn "ValueObject" [(.class_, "AValue")] [(.bare, "BValue")],
    fileIn "ValueObject" [(.interface, "BValue")] []]

/-- The class takes the name that the interface gave up, and the registry leads on from it. -/
def handedOn : List (Source × Sites) :=
  [fileIn "ValueObject" [(.interface, "A"), (.class_, "AValue")] [(.bare, "AValue")]]

/-- The new name of the interface is bound by an import. -/
def caught : List (Source × Sites) :=
  [fileIn "" [(.interface, "A")] [(.import_, "N\\AInterface"), (.bare, "A")]]

/-- The import on which the longer name builds gets another name. -/
def builtUpon : List (Source × Sites) :=
  [fileIn "N" [] [(.import_, "A"), (.qualified, "A\\B")], fileIn "" [(.interface, "A")] []]

/-- A value object that is abstract, and a reference. -/
def abstractValue (name reference : Name) : List (Source × Sites) :=
  let (source, sites) := fileIn "ValueObject" [(.class_, name)] [(.bare, reference)]
  let abstract (d : Declaration) : Declaration := { d with isAbstract := true }
  [(source, { sites with declarations := sites.declarations.map abstract })]

/-- The class gets the name of a class that is not declared, and then moves on to another one. -/
def passedBy : List (Source × Sites) :=
  abstractValue "AValue" "A"

/-- The first new name of the class is a word that is never looked up. -/
def unspeakable : List (Source × Sites) :=
  abstractValue "SelfValue" "SelfValue"

/-- The second file imports the interface of the first one in a group. -/
def importedInGroup (space group : Name) : List (Source × Sites) :=
  let (source, sites) := fileIn "" [] [(.import_, "A")]
  let inGroup (site : Reference) : Reference := { site with group := some group }
  [fileIn space [(.interface, "A")] [],
    (source, { sites with references := sites.references.map inGroup })]

/-- Without any of the conditions references go astray: a guess that is not borne out, a name that
leads on, a new name caught by an import, a longer name built upon a renamed import, a name that was
held for a while, a word that is never looked up, a group in which characters are miscounted, and a
group without a namespace. -/
theorem references_astray :
    Astray guessedWrong [Policy.valueObject] 0 0 ∧
    Astray handedOn [Policy.interfaceEnding, Policy.valueObject] 0 0 ∧
    Astray caught [Policy.interfaceEnding] 0 1 ∧
    Astray builtUpon [Policy.interfaceEnding] 0 1 ∧
    Astray passedBy [Policy.valueObject, Policy.abstractBeginning] 0 0 ∧
    Astray unspeakable [Policy.valueObject, Policy.abstractBeginning] 0 0 ∧
    Astray (importedInGroup "\u0130" "i\u0307") [Policy.interfaceEnding] 1 0 ∧
    Astray (importedInGroup "" "\\") [Policy.interfaceEnding] 1 0 := by
  refine ⟨?_, ?_, ?_, ?_, ?_, ?_, ?_, ?_⟩
  · exact ⟨by decide +kernel, by simp [Policy.catalog, Policy.catalogWith], by decide +kernel⟩
  · exact ⟨by decide +kernel, by simp [Policy.catalog, Policy.catalogWith], by decide +kernel⟩
  · exact ⟨by decide +kernel, by simp [Policy.catalog, Policy.catalogWith], by decide +kernel⟩
  · exact ⟨by decide +kernel, by simp [Policy.catalog, Policy.catalogWith], by decide +kernel⟩
  · exact ⟨by decide +kernel, by simp [Policy.catalog, Policy.catalogWith], by decide +kernel⟩
  · exact ⟨by decide +kernel, by simp [Policy.catalog, Policy.catalogWith], by decide +kernel⟩
  · exact ⟨by decide +kernel, by simp [Policy.catalog, Policy.catalogWith], by decide +kernel⟩
  · exact ⟨by decide +kernel, by simp [Policy.catalog, Policy.catalogWith], by decide +kernel⟩

end Run

end Rechristen
