import Rechristen.Proofs.DeclarationTable.Search
import Rechristen.Proofs.Session.ToldApart

/-!
# Parameters are found after renaming

A declaration names the class it extends as that class was called when the file was read, and keeps
doing so when the class is renamed.  A search that goes up the classes therefore meets old names
only, and each of them has to be brought up to date before the table is asked.

The search meets the same declarations as before, in the same order (`inherits_reaches`).  A name in
a file leads to the declaration that had it at first, whoever has it now, and the table finds that
declaration under the name it has now.  Different declarations have different names at any time, so
a search that did not run in a circle does not run in one later.
-/

namespace Rechristen.Session

open DeclarationTable (Inherits)

variable {s t : Session}

/-! ## What renaming leaves alone -/

/-- What each declaration extends and which methods it defines. -/
def kin (s : Session) : List (Option Name × List (String × List String)) :=
  s.declarations.map fun d => (d.parent, d.methods)

theorem Renamed.kin {id : DeclarationId} {d : Declaration} {new : Name}
    (hrenamed : Renamed s t id d new) : t.kin = s.kin := by
  obtain ⟨planned, hset⟩ := hrenamed.declarations
  rw [Session.kin, hset]
  exact map_set_of_eq hrenamed.found rfl

theorem Reaches.kin (hreaches : s.Reaches t) : t.kin = s.kin := by
  induction hreaches with
  | start => rfl
  | apply _ _ happly ih =>
      rcases apply_cases happly with ⟨-, hsame, -⟩ | ⟨d, new, -, -, hrenamed, -⟩
      · rw [← ih, Session.kin, hsame.declarations, Session.kin]
      · rw [hrenamed.kin, ih]
  | note events _ ih => exact ih

theorem Reaches.parent_methods (hreaches : s.Reaches t) {id : DeclarationId} {d d' : Declaration}
    (hd : s.declarations[id]? = some d) (hd' : t.declarations[id]? = some d') :
    d'.parent = d.parent ∧ d'.methods = d.methods := by
  have hkin := congrArg (·[id]?) hreaches.kin
  simpa [Session.kin, hd, hd'] using hkin

/-! ## The search goes the same way -/

/-- The keys met in `t` are those that declarations have there which were met in `s`. -/
def Matches (s t : Session) (seen seen' : List Name.Key) : Prop :=
  ∀ key' ∈ seen', ∃ (id : DeclarationId) (d d' : Declaration), s.declarations[id]? = some d ∧
    t.declarations[id]? = some d' ∧ d.key ∈ seen ∧ d'.key = key'

theorem Matches.cons {seen seen' : List Name.Key} (hmatches : Matches s t seen seen')
    {id : DeclarationId} {d d' : Declaration} (hd : s.declarations[id]? = some d)
    (hd' : t.declarations[id]? = some d') : Matches s t (d.key :: seen) (d'.key :: seen') := by
  intro key' hkey'
  rcases List.mem_cons.1 hkey' with rfl | hkey'
  · exact ⟨id, d, d', hd, hd', List.mem_cons_self, rfl⟩
  · obtain ⟨i, e, e', he, he', hseen, hkey⟩ := hmatches key' hkey'
    exact ⟨i, e, e', he, he', List.mem_cons_of_mem _ hseen, hkey⟩

/-- A declaration not met in `s` is not met in `t`: it would have one key there with another one. -/
theorem Matches.fresh (ht : t.Coherent) {seen seen' : List Name.Key}
    (hmatches : Matches s t seen seen') {id : DeclarationId} {d d' : Declaration}
    (hd : s.declarations[id]? = some d) (hd' : t.declarations[id]? = some d')
    (hfresh : d.key ∉ seen) : d'.key ∉ seen' := by
  intro hmet
  obtain ⟨i, e, e', he, he', hseen, hkey⟩ := hmatches d'.key hmet
  obtain rfl : i = id := ht.id_eq he' hd' hkey
  obtain rfl : e = d := Option.some.inj (he.symm.trans hd)
  exact hfresh hseen

/-- A name that leads to a declaration of `s` is brought up to date to the name it has in `t`. -/
theorem find?_reaches (hs : s.Coherent) (hsound : s.TableSound) (hregistry : s.registry = {})
    (hreaches : s.Reaches t) {name : Name} {id : DeclarationId} {d : Declaration}
    (hid : s.table.find? name.key = some id) (hd : s.declarations[id]? = some d) :
    d.key = name.key ∧ ∃ d', t.declarations[id]? = some d' ∧
      (t.registry.resolve name).key = d'.key ∧ t.table.find? d'.key = some id := by
  have ht : t.Coherent := hs.reaches hreaches
  obtain ⟨e, he, hkey⟩ := hsound name.key id hid
  obtain rfl : e = d := Option.some.inj (he.symm.trans hd)
  obtain ⟨d', hd', hpresent⟩ :=
    hs.leads_reaches hreaches (leads_of_registry_empty hregistry hd)
  refine ⟨hkey, d', hd', ?_, ht.indexed id d' hd'⟩
  rw [Registry.key_resolve ht.spelled, ← hkey, hpresent]

/-- By induction on the search in `s`, which goes by names as they are; in `t` every name is brought
up to date first. -/
theorem inherits_reaches (hs : s.Coherent) (hsound : s.TableSound) (hregistry : s.registry = {})
    (hreaches : s.Reaches t) {method : String} {seen seen' : List Name.Key} {name : Name}
    {parameters : List String}
    (hinherits : Inherits s.table s.declarations (fun n => n) method seen name parameters)
    (hmatches : Matches s t seen seen') :
    Inherits t.table t.declarations t.registry.resolve method seen' name parameters := by
  have ht : t.Coherent := hs.reaches hreaches
  induction hinherits generalizing seen' with
  | own hfresh hid hd hown =>
      obtain ⟨hkey, d', hd', hresolve, hfound⟩ := find?_reaches hs hsound hregistry hreaches hid hd
      obtain ⟨-, hmethods⟩ := hreaches.parent_methods hd hd'
      have hfresh' := hmatches.fresh ht hd hd' (hkey ▸ hfresh)
      refine .own ?_ ?_ hd' ?_
      · rwa [hresolve]
      · rwa [hresolve]
      · rwa [Declaration.parametersOf?, hmethods]
  | parent hfresh hid hd hnone hparent _ ih =>
      -- The parent is still written with its old name, which is brought up to date in the next
      -- step.
      obtain ⟨hkey, d', hd', hresolve, hfound⟩ := find?_reaches hs hsound hregistry hreaches hid hd
      obtain ⟨hsameParent, hmethods⟩ := hreaches.parent_methods hd hd'
      have hfresh' := hmatches.fresh ht hd hd' (hkey ▸ hfresh)
      have hmatches' := hmatches.cons hd hd'
      rw [hkey] at hmatches'
      refine .parent ?_ ?_ hd' ?_ (hsameParent.trans hparent) ?_
      · rwa [hresolve]
      · rwa [hresolve]
      · rwa [Declaration.parametersOf?, hmethods]
      · rw [hresolve]
        exact ih hmatches'

/-! ## From the start -/

theorem tableSound_indexAll (hsound : s.TableSound)
    (hdistinct : (s.declarations.map Declaration.key).Nodup) (ids : List DeclarationId) :
    (s.indexAll ids).TableSound := by
  induction ids generalizing s with
  | nil => exact hsound
  | cons id rest ih =>
      refine ih (s := (s.index id).2) (index_tableSound hsound hdistinct id).1 ?_
      rwa [index_declarations]

/-- **Parameters survive renaming.**  Start with declarations whose names have different keys, all
of them in the table.  If the parameters of a method are found for a class before anything is
renamed, then the same parameters are found under the same name after any calls that return, with
the help of the registry. -/
theorem parameters_survive {dryRun : Bool} {collision : CollisionPolicy}
    {declarations : List Declaration} (hdistinct : (declarations.map Declaration.key).Nodup)
    {s : Session} (hreaches : (opened dryRun collision declarations).Reaches s) {name : Name}
    {method : String} {parameters : List String}
    (hbefore : (opened dryRun collision declarations).table.parameters
      (opened dryRun collision declarations).declarations none name method = some parameters) :
    s.table.parameters s.declarations (some s.registry) name method = some parameters := by
  have hopened : (opened dryRun collision declarations).Coherent :=
    coherent_indexAll rfl rfl hdistinct fun id hid => List.mem_range.2 hid
  have hsound : (opened dryRun collision declarations).TableSound :=
    tableSound_indexAll (fun key id hfind => by cases hfind) hdistinct _
  rw [DeclarationTable.parameters_eq_some_iff] at hbefore ⊢
  refine inherits_reaches hopened hsound (indexAll_registry _ _) hreaches hbefore ?_
  exact fun key' hkey' => by cases hkey'

/-! ### A name on the way is taken over -/

/-- Three classes, each extending the next one, of which the last defines a method, and a class that
defines it otherwise. -/
def descent : List Declaration :=
  [{ classIn "Child" with parent := some "App\\Middle" },
    { classIn "Middle" with parent := some "\\app\\Root" },
    { classIn "Root" with methods := [("make", ["size", "colour"])] },
    { classIn "Other" with methods := [("make", ["weight"])] }]

/-- The last class gives its name up, the other one takes it, and the first two are renamed, one of
them there and back. -/
def descentRenamed : Session :=
  let file : Source := { path := ⟨"", ["Child.php"]⟩, content := [] }
  let rename (s : Session) (id : DeclarationId) (new : Name) : Session :=
    (s.apply file id (some new) Policy.valueObject).state.1
  let s := opened false .firstWins descent
  rename (rename (rename (rename (rename s 2 "Base") 3 "Root") 1 "Centre") 1 "Middle") 0 "Heir"

theorem parameters_survive_descent :
    (descent.map Declaration.key).Nodup ∧
    (opened false .firstWins descent).Reaches descentRenamed ∧
    (opened false .firstWins descent).table.parameters
      (opened false .firstWins descent).declarations none "App\\CHILD" "Make" =
        some ["size", "colour"] ∧
    descentRenamed.declarations.map Declaration.shortName = ["Heir", "Middle", "Base", "Root"] ∧
    descentRenamed.table.parameters descentRenamed.declarations (some descentRenamed.registry)
      "App\\CHILD" "Make" = some ["size", "colour"] := by
  have hdistinct : (descent.map Declaration.key).Nodup := by decide +kernel
  have hreaches : (opened false .firstWins descent).Reaches descentRenamed := by
    unfold descentRenamed
    refine .applied (.applied (.applied (.applied (.applied .start ?_ ?_) ?_ ?_) ?_ ?_) ?_ ?_)
      ?_ ?_ <;> decide +kernel
  have hbefore : (opened false .firstWins descent).table.parameters
      (opened false .firstWins descent).declarations none "App\\CHILD" "Make" =
        some ["size", "colour"] := by decide +kernel
  exact ⟨hdistinct, hreaches, hbefore, by decide +kernel,
    parameters_survive hdistinct hreaches hbefore⟩

end Rechristen.Session
