import Rechristen.Proofs.MovePlan.Planning
import Rechristen.Proofs.Session.ToldApart

/-!
# Wishes that have nothing to do with each other

A policy wishes other names for some declarations.  A wish is granted or refused; if it is granted,
the names, the registry and the plan change.  These are what matters of a session in the end, and
they are compared as maps (`View`), since the order of entries and moves is the order of the calls.

Wishes are apart if they are about different declarations in different files and neither asks for a
name that the other one asks for or gives up.  Granting one of them then leaves the other as it was,
granted or refused (`grants_of_renamed`), and what both of them do to a view does not depend on the
order (`View.after_comm`).
-/

namespace Rechristen

/-- A declaration and the short name that is wished for it. -/
structure Wish where
  id : DeclarationId
  declaration : Declaration
  new : Name

namespace Wish

/-- The rename of the qualified name. -/
def rename (w : Wish) : Renaming :=
  ⟨w.declaration.name, Name.qualify w.declaration.space w.new⟩

theorem key_old_rename (w : Wish) : w.rename.old.key = w.declaration.key := by
  rw [rename, Declaration.key]

/-- The declaration with the name that is wished for. -/
def renamed (w : Wish) : Declaration :=
  { w.declaration with shortName := w.new }

/-- The wishes are about different declarations, different names and different files. -/
structure Apart (v w : Wish) : Prop where
  ids : v.id ≠ w.id
  names : v.rename.Apart w.rename
  files : v.declaration.ownsFile = true → w.declaration.ownsFile = true →
    v.declaration.path.normal ≠ w.declaration.path.normal

end Wish

/-! ## What matters of a session -/

/-- The planned destinations after the file of a declaration was planned to follow its name. -/
def Declaration.targetsAfter (collision : CollisionPolicy) (d : Declaration)
    (targets : Path → Option Path) (path : Path) : Option Path :=
  if d.ownsFile = true ∧ path = d.path.normal then
    match d.path.withName (d.shortName ++ d.path.suffix) with
    | .ok target =>
      MovePlan.destination collision (Move.normal ⟨d.path, target⟩) d.plannedPath.isSome
        (targets path)
    | .error _ => targets path
  else targets path

/-- The short names, the registry and the plan, as maps. -/
@[ext] structure View where
  names : DeclarationId → Option Name
  entries : Name.Key → Option Renaming
  targets : Path → Option Path

/-- The view after a wish was granted. -/
def View.after (collision : CollisionPolicy) (view : View) (w : Wish) : View where
  names id := if id = w.id then some w.new else view.names id
  entries := Registry.entriesAfter w.rename.normal view.entries
  targets := w.renamed.targetsAfter collision view.targets

theorem Declaration.targetsAfter_comm {collision : CollisionPolicy} {d e : Declaration}
    (hfiles : d.ownsFile = true → e.ownsFile = true → d.path.normal ≠ e.path.normal)
    (targets : Path → Option Path) :
    e.targetsAfter collision (d.targetsAfter collision targets) =
      d.targetsAfter collision (e.targetsAfter collision targets) := by
  funext path
  by_cases hd : d.ownsFile = true ∧ path = d.path.normal
  · have he : ¬(e.ownsFile = true ∧ path = e.path.normal) := by
      rintro ⟨he, rfl⟩
      exact hfiles hd.1 he hd.2.symm
    unfold targetsAfter
    simp only [if_pos hd, if_neg he]
  · unfold targetsAfter
    simp only [if_neg hd]

/-- **Commuting.**  What two wishes do to a view does not depend on their order. -/
theorem View.after_comm {v w : Wish} (h : v.Apart w) (collision : CollisionPolicy) (view : View) :
    (view.after collision v).after collision w = (view.after collision w).after collision v := by
  have hnames : v.rename.normal.Apart w.rename.normal := h.names.normal_left.symm.normal_left.symm
  unfold View.after
  apply View.ext
  · funext id
    dsimp only
    by_cases hw : id = w.id
    · rw [if_pos hw, if_neg fun hv => h.ids (hv.symm.trans hw), if_pos hw]
    · rw [if_neg hw, if_neg hw]
  · dsimp only
    exact Registry.entriesAfter_comm hnames view.entries
  · dsimp only
    exact Declaration.targetsAfter_comm (d := v.renamed) (e := w.renamed) h.files view.targets

namespace Session

variable {s t u : Session} {id : DeclarationId} {d : Declaration} {new : Name}

/-- What matters of a session. -/
def view (s : Session) : View where
  names id := s.declarations[id]?.map Declaration.shortName
  entries := s.registry.find?
  targets := s.plan.target?

theorem Alike.view (h : Alike s t) : t.view = s.view := by
  rw [Session.view, Session.view, h.declarations, h.registry, h.plan]

theorem Alike.grants_iff (h : Alike s t) : t.Grants id d new ↔ s.Grants id d new := by
  rw [Grants, Grants, h.table, h.registry]

/-- Planning that does not fail: the plan leads where the declaration wants it. -/
theorem planFile_targets (hok : (s.planFile id d).failure? = none) :
    (s.planFile id d).state.plan.target? = d.targetsAfter s.collision s.plan.target? ∧
      (s.planFile id d).state.collision = s.collision := by
  unfold planFile at hok ⊢
  split at hok
  case isTrue howns =>
    rw [if_pos howns]
    refine ⟨?_, rfl⟩
    funext path
    rw [Declaration.targetsAfter, if_neg fun h => by simp [h.1] at howns]
    rfl
  case isFalse howns =>
    rw [if_neg howns]
    cases hwith : d.path.withName (d.shortName ++ d.path.suffix) with
    | error e =>
        rw [hwith] at hok
        cases hok
    | ok target =>
        rw [hwith] at hok
        dsimp only at hok ⊢
        obtain ⟨hplan, hcollision, -⟩ := state_planMove s ⟨d.path, target⟩ d.plannedPath.isSome
        have howner : d.ownsFile = true := by simpa using howns
        -- Only this step changes the plan.  What comes after it notes the path or tells that the
        -- move was skipped.
        have htargets : (s.planMove ⟨d.path, target⟩ d.plannedPath.isSome).state.plan.target? =
            d.targetsAfter s.collision s.plan.target? := by
          funext path
          rw [hplan, MovePlan.target?_judge, Declaration.targetsAfter, hwith]
          simp only [howner, true_and]
          rfl
        rw [← htargets]
        generalize s.planMove ⟨d.path, target⟩ d.plannedPath.isSome = a at hok hcollision ⊢
        obtain ⟨result, t⟩ := a
        cases result with
        | error cause => cases hok
        | ok accepted =>
            simp only [Attempt.andThen]
            split
            · exact ⟨rfl, hcollision⟩
            split
            · exact ⟨rfl, hcollision⟩
            · exact ⟨rfl, hcollision⟩

/-! ## Granting a wish -/

/-- A call that returns was made in a session that is open. -/
theorem open_of_ok {source : Source} {newName : Option Name} {p : Policy}
    (hok : (s.apply source id newName p).failure? = none) : s.finalized = false := by
  by_contra hclosed
  rw [Bool.not_eq_false] at hclosed
  rw [apply, if_pos hclosed] at hok
  cases hok

/-- A wish that is not granted changes nothing. -/
theorem alike_of_refused {source : Source} {p : Policy} (hfound : s.declarations[id]? = some d)
    (hrefused : ¬s.Grants id d new) : Alike s (s.apply source id (some new) p).state.1 := by
  rcases apply_outcome s source id (some new) p with ⟨halike, -⟩ | ⟨e, other, u, hnew, -, hu, -⟩
  · exact halike
  · obtain rfl := Option.some.inj hnew
    obtain rfl := Option.some.inj (hfound.symm.trans hu.found)
    exact absurd hu.granted hrefused

/-- A wish that is granted: the declaration is renamed, and its file is planned to follow. -/
theorem renamed_of_granted {source : Source} {p : Policy}
    (hok : (s.apply source id (some new) p).failure? = none)
    (hfound : s.declarations[id]? = some d) (hdiffers : new ≠ d.shortName)
    (hgranted : s.Grants id d new) :
    Renamed s (s.apply source id (some new) p).state.1 id d new ∧
      (s.apply source id (some new) p).state.1.collision = s.collision ∧
      (s.apply source id (some new) p).state.1.plan.target? =
        ({ d with shortName := new } : Declaration).targetsAfter s.collision s.plan.target? := by
  rcases apply_outcome s source id (some new) p with ⟨-, -, hrefused⟩ |
    ⟨e, other, u, hnew, -, hu, hend⟩
  · exact absurd hgranted (hrefused d new (open_of_ok hok) hfound rfl hdiffers)
  obtain rfl := Option.some.inj hnew
  obtain rfl := Option.some.inj (hfound.symm.trans hu.found)
  rcases hend with ⟨hconflict, -⟩ | ⟨htable, hfailure, hstate⟩
  · rw [Attempt.conflicts, hok] at hconflict
    cases hconflict
  rw [hok] at hfailure
  obtain ⟨htargets, hcollision⟩ := planFile_targets hfailure.symm
  obtain ⟨hregistry, htable', hdeclarations⟩ := planFile_state u id { d with shortName := new }
  refine ⟨⟨hfound, hgranted.1, hgranted.2, ?_, ?_, ?_⟩, ?_, ?_⟩
  · rw [hstate.registry, hregistry, hu.registry]
  · rw [hstate.table, htable', htable]
  · rw [hstate.declarations]
    rcases hdeclarations with hkept | ⟨planned, hset⟩
    · exact ⟨d.plannedPath, hkept.trans hu.declarations⟩
    · exact ⟨planned, by rw [hset, hu.declarations, List.set_set]⟩
  · rw [hstate.collision, hcollision, hu.collision]
  · rw [hstate.plan, htargets, hu.plan, hu.collision]

/-- **Granting a wish.**  The view changes as the wish says. -/
theorem Renamed.view {w : Wish} (hw : Renamed s t w.id w.declaration w.new)
    (hregistry : s.registry.WellFormed)
    (htargets : t.plan.target? = w.renamed.targetsAfter s.collision s.plan.target?) :
    t.view = s.view.after s.collision w := by
  unfold Session.view View.after
  apply View.ext
  · obtain ⟨planned, hset⟩ := hw.declarations
    funext i
    dsimp only
    by_cases hi : i = w.id
    · rw [hset, hi, if_pos rfl, List.getElem?_set_self (List.getElem?_eq_some_iff.1 hw.found).1]
      rfl
    · rw [hset, if_neg hi, List.getElem?_set_ne (Ne.symm hi)]
  · funext key
    dsimp only
    rw [hw.registry, hregistry.find?_register hw.accepted]
    rfl
  · exact htargets

/-- **Independence.**  A wish is granted after another one if and only if it was before. -/
theorem grants_of_renamed {v w : Wish} (h : v.Apart w) (hregistry : s.registry.WellFormed)
    (hv : Renamed s t v.id v.declaration v.new) :
    t.Grants w.id w.declaration w.new ↔ s.Grants w.id w.declaration w.new := by
  have hnames := h.names
  unfold Wish.rename at hnames
  obtain ⟨-, hnew, -, hold⟩ := hnames
  dsimp only at hnew hold
  unfold Grants
  refine and_congr ?_ ?_
  · rw [DeclarationTable.rival?_eq_none_iff, DeclarationTable.rival?_eq_none_iff, hv.table,
      DeclarationTable.find?_rename, Declaration.key_withShortName, if_neg (Ne.symm hnew),
      if_neg fun hheld => hold hheld.2.symm]
  · rw [hv.registry]
    exact hregistry.accepted_register_of_apart h.names hv.accepted

end Session

end Rechristen
