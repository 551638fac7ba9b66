import Rechristen.Proofs.MovePlan.Planning
import Rechristen.Proofs.Path.Names
import Rechristen.Proofs.Session.Origins
import Rechristen.Proofs.Session.Outcome

/-!
# The plan follows the names

A file that is named after a declaration is to be called as the declaration is.  While declarations
are renamed, some of them several times and some of them back, the plan is changed step by step:
moves are planned, replaced and withdrawn.  At every time it holds what it would hold if it were
made anew from the present names (`plan_follows_names`), whatever the setting for collisions,
because a declaration that has planned a move says so when it plans the next one, and no other
declaration plans moves of its file.

A call that fails because edits overlap, or because the file cannot get the name, has renamed the
declaration and not come to the plan.  Such calls are left out here, and they have to be
(`plan_left_behind`).
-/

namespace Rechristen

/-! ## Planning again what was planned before -/

namespace MovePlan

/-- A declaration that planned a move withdraws it or replaces it; one that planned none finds the
file free. -/
theorem judge_settled (p : MovePlan) (policy : CollisionPolicy) (m : Move) :
    (m.source = m.target ∧
      ∃ q, p.judge policy m (p.target? m.source).isSome = .stays q) ∨
    (m.source ≠ m.target ∧
      ∃ q, p.judge policy m (p.target? m.source).isSome = .planned q) := by
  unfold judge
  by_cases hstays : m.source = m.target
  · rw [if_pos hstays]
    exact Or.inl ⟨hstays, _, rfl⟩
  · have hfree : ((p.target? m.source).filter fun target =>
        target ≠ m.target && !(p.target? m.source).isSome) = none := by
      cases p.target? m.source <;> simp
    rw [if_neg hstays, hfree]
    exact Or.inr ⟨hstays, _, rfl⟩

theorem destination_settled (policy : CollisionPolicy) (m : Move) (current : Option Path) :
    destination policy m current.isSome current =
      if m.source = m.target then none else some m.target := by
  unfold destination
  cases current <;> simp

end MovePlan

/-- Where the file of a declaration is to go: to its present name, if it has another one. -/
def Declaration.newPath? (d : Declaration) : Option Path :=
  if d.ownsFile = true ∧ d.shortName ≠ d.path.stem then
    (d.path.withName (d.shortName ++ d.path.suffix)).toOption
  else none

theorem Declaration.newPath?_eq_some_iff {d : Declaration} {target : Path} :
    d.newPath? = some target ↔
      d.ownsFile = true ∧ d.shortName ≠ d.path.stem ∧
        d.path.withName (d.shortName ++ d.path.suffix) = .ok target := by
  unfold newPath?
  cases d.path.withName (d.shortName ++ d.path.suffix) <;> simp [Except.toOption, and_assoc]

namespace Session

variable {s t : Session} {id : DeclarationId} {d : Declaration}

theorem planMove_settled {m : Move} (hm : m.normal = m) {current : Option Path}
    (hcurrent : s.plan.target? m.source = current) :
    ∃ t, s.planMove m current.isSome = .success (decide (m.source ≠ m.target)) t ∧
      t.declarations = s.declarations ∧ (s.plan.WellFormed → t.plan.WellFormed) ∧
      ∀ source, t.plan.target? source =
        if source = m.source then if m.source = m.target then none else some m.target
        else s.plan.target? source := by
  subst hcurrent
  have hresult : s.planMove m (s.plan.target? m.source).isSome =
      .success (decide (m.source ≠ m.target))
        (s.planMove m (s.plan.target? m.source).isSome).state := by
    unfold planMove
    rw [hm]
    dsimp only
    rcases s.plan.judge_settled s.collision m with ⟨hstays, q, hjudge⟩ | ⟨hmoves, q, hjudge⟩
    · rw [hjudge, decide_eq_false (not_not.2 hstays)]
      rfl
    · rw [hjudge, decide_eq_true hmoves]
      rfl
  obtain ⟨hplan, -, hsame⟩ := state_planMove s m (s.plan.target? m.source).isSome
  rw [hm] at hplan
  refine ⟨_, hresult, hsame.declarations, fun hwell => ?_, fun source => ?_⟩
  · rw [hplan]
    exact hwell.judge _ _ _
  · rw [hplan, MovePlan.target?_judge]
    split
    case isTrue hsource => rw [hsource, MovePlan.destination_settled]
    case isFalse => rfl

/-- The file of a declaration that noted what it planned is planned to go where it belongs. -/
theorem planFile_settled (id : DeclarationId) (howns : d.ownsFile = true)
    (hnormal : d.path.normal = d.path) (hslash : '/' ∉ d.shortName.toList)
    (hsettled : s.plan.target? d.path = d.plannedPath)
    {target : Path} (hwith : d.path.withName (d.shortName ++ d.path.suffix) = .ok target) :
    ∃ r t, s.planFile id d = .success r t ∧
      t.declarations = s.declarations.set id { d with plannedPath := d.newPath? } ∧
      (s.plan.WellFormed → t.plan.WellFormed) ∧
      ∀ source, t.plan.target? source =
        if source = d.path then d.newPath? else s.plan.target? source := by
  have hname : '/' ∉ (d.shortName ++ d.path.suffix).toList := by
    rw [String.toList_append, List.mem_append]
    exact not_or.2 ⟨hslash, Path.not_mem_suffix hnormal⟩
  have hm : Move.normal ⟨d.path, target⟩ = ⟨d.path, target⟩ := by
    rw [Move.normal, hnormal, Path.normal_withName hnormal hname hwith]
  obtain ⟨t, hplan, hdeclarations, hwell, htargets⟩ := planMove_settled hm hsettled
  have hstem := Path.withName_stem_eq_self_iff hwith
  -- The file is called after its declaration if and only if the new path is the old one.
  have hnew : d.newPath? = if d.path = target then none else some target := by
    unfold Declaration.newPath?
    by_cases hself : target = d.path
    · simp [hself, hstem.1 hself]
    · rw [if_pos ⟨howns, fun h => hself (hstem.2 h)⟩, if_neg (Ne.symm hself), hwith]
      rfl
  unfold planFile
  rw [howns, hwith]
  simp only [Bool.not_true, Bool.false_eq_true, if_false]
  rw [hplan, Attempt.andThen_success]
  by_cases hself : target = d.path
  · rw [if_pos hself]
    refine ⟨_, _, rfl, ?_, hwell, fun source => ?_⟩
    · rw [hnew, if_pos hself.symm, update, hdeclarations]
    · rw [hnew]
      exact htargets source
  · rw [if_neg hself, if_pos (by simpa using Ne.symm hself)]
    refine ⟨_, _, rfl, ?_, hwell, fun source => ?_⟩
    · rw [hnew, if_neg (Ne.symm hself), update, hdeclarations]
    · rw [hnew]
      exact htargets source

/-! ## The invariant -/

/-- The plan holds what the present names ask for, and each declaration knows what is planned for
its file. -/
structure InStep (s : Session) : Prop where
  /-- The paths of the files are as they were read. -/
  normal : ∀ (id : DeclarationId) (d : Declaration), s.declarations[id]? = some d →
    d.ownsFile = true → d.path.normal = d.path
  /-- A file is named after one declaration at most. -/
  single : ∀ (i j : DeclarationId) (d e : Declaration), s.declarations[i]? = some d →
    s.declarations[j]? = some e → d.ownsFile = true → e.ownsFile = true → d.path = e.path → i = j
  /-- A file that is to be called otherwise can be called so. -/
  nameable : ∀ (id : DeclarationId) (d : Declaration), s.declarations[id]? = some d →
    d.ownsFile = true → d.shortName ≠ d.path.stem → ∃ target, d.newPath? = some target
  noted : ∀ (id : DeclarationId) (d : Declaration), s.declarations[id]? = some d →
    d.plannedPath = d.newPath?
  wellFormed : s.plan.WellFormed
  plan : ∀ source target, s.plan.target? source = some target ↔
    ∃ (id : DeclarationId) (d : Declaration), s.declarations[id]? = some d ∧ d.path = source ∧
      d.newPath? = some target

namespace InStep

theorem target?_path (hs : s.InStep) (hfound : s.declarations[id]? = some d)
    (howns : d.ownsFile = true) : s.plan.target? d.path = d.newPath? := by
  ext target
  rw [hs.plan]
  constructor
  · rintro ⟨other, e, hother, hpath, htarget⟩
    have howner := (Declaration.newPath?_eq_some_iff.1 htarget).1
    obtain rfl := hs.single other id e d hother hfound howner howns hpath
    rw [Option.some.inj (hother.symm.trans hfound)] at htarget
    exact htarget
  · intro htarget
    exact ⟨id, d, hfound, rfl, htarget⟩

theorem alike (hs : s.InStep) (hdeclarations : t.declarations = s.declarations)
    (hplan : t.plan = s.plan) : t.InStep := by
  constructor
  · rw [hdeclarations]
    exact hs.normal
  · rw [hdeclarations]
    exact hs.single
  · rw [hdeclarations]
    exact hs.nameable
  · rw [hdeclarations]
    exact hs.noted
  · rw [hplan]
    exact hs.wellFormed
  · rw [hdeclarations, hplan]
    exact hs.plan

section Set

variable {e : Declaration}

/-- At each place stands `e`, or what stood there. -/
theorem getElem?_set_cases {i : DeclarationId} {f : Declaration}
    (hf : (s.declarations.set id e)[i]? = some f) :
    (i = id ∧ f = e) ∨ (i ≠ id ∧ s.declarations[i]? = some f) := by
  by_cases hi : i = id
  · subst hi
    rw [List.getElem?_set_self'] at hf
    obtain ⟨_, -, rfl⟩ := Option.map_eq_some_iff.1 hf
    exact Or.inl ⟨rfl, rfl⟩
  · rw [List.getElem?_set_ne (Ne.symm hi)] at hf
    exact Or.inr ⟨hi, hf⟩

theorem forall_set {P : Declaration → Prop} (he : P e)
    (hold : ∀ (i : DeclarationId) (f : Declaration), s.declarations[i]? = some f → P f) :
    ∀ (i : DeclarationId) (f : Declaration), (s.declarations.set id e)[i]? = some f → P f := by
  intro i f hf
  rcases getElem?_set_cases hf with ⟨-, rfl⟩ | ⟨-, hf⟩
  · exact he
  · exact hold i f hf

variable (hfound : s.declarations[id]? = some d) (hpath : e.path = d.path)
  (howns : e.ownsFile = d.ownsFile)
include hfound hpath howns

/-- Each declaration has the file it had. -/
theorem file_set {i : DeclarationId} {f : Declaration}
    (hf : (s.declarations.set id e)[i]? = some f) :
    ∃ g, s.declarations[i]? = some g ∧ g.path = f.path ∧ g.ownsFile = f.ownsFile := by
  rcases getElem?_set_cases hf with ⟨rfl, rfl⟩ | ⟨-, hf⟩
  · exact ⟨d, hfound, hpath.symm, howns.symm⟩
  · exact ⟨f, hf, rfl, rfl⟩

theorem single_set (hs : s.InStep) {i j : DeclarationId} {f g : Declaration}
    (hf : (s.declarations.set id e)[i]? = some f) (hg : (s.declarations.set id e)[j]? = some g)
    (hfowns : f.ownsFile = true) (hgowns : g.ownsFile = true) (hsame : f.path = g.path) :
    i = j := by
  obtain ⟨f', hf', hfpath, hfown⟩ := file_set hfound hpath howns hf
  obtain ⟨g', hg', hgpath, hgown⟩ := file_set hfound hpath howns hg
  exact hs.single i j f' g' hf' hg' (hfown.trans hfowns) (hgown.trans hgowns)
    (by rw [hfpath, hgpath, hsame])

/-- The moves that are asked for change at the file of the declaration and nowhere else. -/
theorem asked_set (hs : s.InStep) (source target : Path) :
    (if e.ownsFile = true ∧ source = e.path then e.newPath? else s.plan.target? source) =
        some target ↔
      ∃ (i : DeclarationId) (f : Declaration), (s.declarations.set id e)[i]? = some f ∧
        f.path = source ∧ f.newPath? = some target := by
  have hself : (s.declarations.set id e)[id]? = some e :=
    List.getElem?_set_self (List.getElem?_eq_some_iff.1 hfound).1
  split
  case isTrue hmoved =>
    obtain ⟨heowns, rfl⟩ := hmoved
    constructor
    · intro htarget
      exact ⟨id, e, hself, rfl, htarget⟩
    · rintro ⟨i, f, hf, hfpath, htarget⟩
      have hfowns := (Declaration.newPath?_eq_some_iff.1 htarget).1
      obtain rfl := single_set hfound hpath howns hs hf hself hfowns heowns hfpath
      rw [hself] at hf
      rwa [Option.some.inj hf]
  case isFalse hkept =>
    rw [hs.plan]
    -- Neither before nor after is it the changed declaration that asks for the move.
    constructor
    · rintro ⟨i, f, hf, rfl, htarget⟩
      have hfowns := (Declaration.newPath?_eq_some_iff.1 htarget).1
      have hi : id ≠ i := by
        rintro rfl
        rw [Option.some.inj (hf.symm.trans hfound)] at hkept hfowns
        exact hkept ⟨howns.trans hfowns, hpath.symm⟩
      exact ⟨i, f, by rw [List.getElem?_set_ne hi, hf], rfl, htarget⟩
    · rintro ⟨i, f, hf, rfl, htarget⟩
      rcases getElem?_set_cases hf with ⟨-, rfl⟩ | ⟨-, hf⟩
      · exact absurd ⟨(Declaration.newPath?_eq_some_iff.1 htarget).1, rfl⟩ hkept
      · exact ⟨i, f, hf, rfl, htarget⟩

/-- A declaration may get another name if it notes where its file is to go, and the plan is changed
there and nowhere else. -/
theorem set (hs : s.InStep)
    (hnameable : e.ownsFile = true → e.shortName ≠ e.path.stem → ∃ target, e.newPath? = some target)
    (hnoted : e.plannedPath = e.newPath?) (hdeclarations : t.declarations = s.declarations.set id e)
    (hwell : t.plan.WellFormed)
    (htargets : ∀ source, t.plan.target? source =
      if e.ownsFile = true ∧ source = e.path then e.newPath? else s.plan.target? source) :
    t.InStep := by
  constructor
  case normal =>
    intro i f hf hfowns
    rw [hdeclarations] at hf
    obtain ⟨g, hg, hgpath, hgowns⟩ := file_set hfound hpath howns hf
    rw [← hgpath]
    exact hs.normal i g hg (hgowns.trans hfowns)
  case single =>
    intro i j f g hf hg
    rw [hdeclarations] at hf hg
    exact single_set hfound hpath howns hs hf hg
  case nameable =>
    rw [hdeclarations]
    exact forall_set hnameable hs.nameable
  case noted =>
    rw [hdeclarations]
    exact forall_set hnoted hs.noted
  case wellFormed => exact hwell
  case plan =>
    intro source target
    rw [htargets, hdeclarations]
    exact asked_set hfound hpath howns hs source target

end Set

/-- Planning the file of a declaration that just got a new name: the file cannot get the name, or
the plan is in step again. -/
theorem planFile (hs : s.InStep) {u : Session} {new : Name} (hu : Halfway s u id d new)
    (hslash : '/' ∉ new.toList) :
    (∃ e, u.planFile id { d with shortName := new } = .failure (.fileName e) u) ∨
      ∃ r t, u.planFile id { d with shortName := new } = .success r t ∧ t.InStep := by
  have hwell : u.plan.WellFormed := hu.plan ▸ hs.wellFormed
  generalize hrenamed : ({ d with shortName := new } : Declaration) = e
  have hdeclarations : u.declarations = s.declarations.set id e := by rw [hu.declarations, hrenamed]
  obtain ⟨hpath, hsame, hkept⟩ :
      e.path = d.path ∧ e.ownsFile = d.ownsFile ∧ e.plannedPath = d.plannedPath := by
    subst hrenamed
    exact ⟨rfl, rfl, rfl⟩
  by_cases howns : e.ownsFile = true
  -- Without a file of its own the declaration asks for nothing, before and after.
  case neg =>
    refine Or.inr ⟨none, u, by simp [Session.planFile, howns], ?_⟩
    refine hs.set hu.found hpath hsame (fun h => absurd h howns) ?_ hdeclarations hwell
      (by simp [howns, hu.plan])
    rw [hkept, hs.noted id d hu.found]
    simp [Declaration.newPath?, howns, ← hsame]
  cases hwith : e.path.withName (e.shortName ++ e.path.suffix) with
  | error refused => exact Or.inl ⟨refused, by simp [Session.planFile, howns, hwith]⟩
  | ok target =>
      -- Nobody planned since, so the declaration still knows what is planned for its file.
      have hsettled : u.plan.target? e.path = e.plannedPath := by
        rw [hu.plan, hpath, hkept, hs.target?_path hu.found (hsame ▸ howns), hs.noted id d hu.found]
      have hnormal : e.path.normal = e.path := by
        rw [hpath]
        exact hs.normal id d hu.found (hsame ▸ howns)
      obtain ⟨r, t, hplan, hafter, hwell', htargets⟩ :=
        planFile_settled id howns hnormal (by rw [← hrenamed]; exact hslash) hsettled hwith
      rw [hdeclarations, List.set_set] at hafter
      refine Or.inr ⟨r, t, hplan, ?_⟩
      refine hs.set hu.found (e := { e with plannedPath := e.newPath? }) hpath hsame ?_ rfl hafter
        (hwell' hwell) ?_
      · intro _ hdiffers
        exact ⟨target, Declaration.newPath?_eq_some_iff.2 ⟨howns, hdiffers, hwith⟩⟩
      · intro source
        rw [htargets source, hu.plan]
        simp [howns, Declaration.newPath?]

/-- **A call.**  Unless edits overlap or the file cannot get its name, the plan stays in step. -/
theorem apply (hs : s.InStep) {source : Source} {newName : Option Name} {p : Policy}
    (hslash : ∀ new ∈ newName, '/' ∉ new.toList)
    (hedits : (s.apply source id newName p).conflicts = false)
    (hnames : ∀ e, (s.apply source id newName p).failure? ≠ some (.fileName e)) :
    (s.apply source id newName p).state.1.InStep := by
  rcases apply_outcome s source id newName p with ⟨halike, -⟩ | ⟨d, new, u, rfl, -, hu, hend⟩
  · exact hs.alike halike.declarations halike.plan
  rcases hend with ⟨hconflict, -⟩ | ⟨-, hfailure, hstate⟩
  · rw [hedits] at hconflict
    cases hconflict
  rcases hs.planFile hu (hslash new rfl) with ⟨e, hplan⟩ | ⟨r, t, hplan, ht⟩
  · rw [hplan] at hfailure
    exact absurd hfailure (hnames e)
  · rw [hplan] at hstate
    exact ht.alike hstate.declarations hstate.plan

/-- A call never finds its file planned to go elsewhere. -/
theorem apply_ne_planConflict (hs : s.InStep) {source : Source} {newName : Option Name} {p : Policy}
    (hslash : ∀ new ∈ newName, '/' ∉ new.toList) (file planned requested : Path) :
    (s.apply source id newName p).failure? ≠ some (.planConflict file planned requested) := by
  intro hconflict
  rcases apply_outcome s source id newName p with ⟨-, hclosed, -⟩ | ⟨d, new, u, rfl, -, hu, hend⟩
  · cases hclosed _ hconflict
  rcases hend with ⟨hedits, -⟩ | ⟨-, hfailure, -⟩
  · rw [Attempt.conflicts, hconflict] at hedits
    cases hedits
  rw [hfailure] at hconflict
  rcases hs.planFile hu (hslash new rfl) with ⟨e, hplan⟩ | ⟨r, t, hplan, -⟩
  · rw [hplan] at hconflict
    cases hconflict
  · rw [hplan] at hconflict
    cases hconflict

end InStep

/-- A session before the first call: nothing is planned, and a file that is named after a
declaration is called as that one declaration is. -/
structure Unplanned (s : Session) : Prop where
  plan : s.plan = {}
  noted : ∀ d ∈ s.declarations, d.plannedPath = none
  normal : ∀ d ∈ s.declarations, d.ownsFile = true → d.path.normal = d.path
  named : ∀ d ∈ s.declarations, d.ownsFile = true → d.shortName = d.path.stem
  single : s.declarations.Pairwise fun d e =>
    d.ownsFile = true → e.ownsFile = true → d.path ≠ e.path

theorem Unplanned.inStep (hs : s.Unplanned) : s.InStep := by
  have hnew (id : DeclarationId) (d : Declaration) (hd : s.declarations[id]? = some d) :
      d.newPath? = none := by
    rw [Declaration.newPath?, if_neg]
    rintro ⟨howns, hdiffers⟩
    exact hdiffers (hs.named d (List.mem_of_getElem? hd) howns)
  refine ⟨fun id d hd => hs.normal d (List.mem_of_getElem? hd), ?_, ?_, ?_, ?_, ?_⟩
  · intro i j d e hd he hdowns heowns hpath
    obtain ⟨hi, rfl⟩ := List.getElem?_eq_some_iff.1 hd
    obtain ⟨hj, rfl⟩ := List.getElem?_eq_some_iff.1 he
    have hpairs := List.pairwise_iff_getElem.1 hs.single
    rcases Nat.lt_trichotomy i j with hlt | heq | hgt
    · exact absurd hpath (hpairs i j hi hj hlt hdowns heowns)
    · exact heq
    · exact absurd hpath.symm (hpairs j i hj hi hgt heowns hdowns)
  · intro id d hd howns hdiffers
    exact absurd (hs.named d (List.mem_of_getElem? hd) howns) hdiffers
  · intro id d hd
    rw [hnew id d hd, hs.noted d (List.mem_of_getElem? hd)]
  · rw [hs.plan]
    exact List.nodup_nil
  · intro source target
    constructor
    · intro htarget
      rw [hs.plan] at htarget
      cases htarget
    · rintro ⟨id, d, hd, -, htarget⟩
      rw [hnew id d hd] at htarget
      cases htarget

/-- `t` is reached from `s` by calls for any files, of which none fails because edits overlap or
because a file cannot get its name.  New names have no slash. -/
inductive Planning (s : Session) : Session → Prop where
  | start : Planning s s
  | call {t : Session} {source : Source} {id : DeclarationId} {newName : Option Name} {p : Policy} :
      Planning s t → (∀ new ∈ newName, '/' ∉ new.toList) →
      (t.apply source id newName p).conflicts = false →
      (∀ e, (t.apply source id newName p).failure? ≠ some (.fileName e)) →
      Planning s (t.apply source id newName p).state.1

/-- A call that returns fails for no reason. -/
theorem Planning.returned {source : Source} {newName : Option Name} {p : Policy}
    (hplanning : s.Planning t) (hslash : ∀ new ∈ newName, '/' ∉ new.toList)
    (hok : (t.apply source id newName p).failure? = none) :
    s.Planning (t.apply source id newName p).state.1 := by
  refine hplanning.call hslash ?_ ?_
  · rw [Attempt.conflicts, hok]
    rfl
  · rw [hok]
    intro error hsome
    cases hsome

theorem Planning.inStep (hs : s.Unplanned) (hplanning : s.Planning t) : t.InStep := by
  induction hplanning with
  | start => exact hs.inStep
  | call _ hslash hedits hnames ih => exact ih.apply hslash hedits hnames

/-- **The plan follows the names.**  After any calls the planned moves are those of the files whose
declaration is called otherwise than its file, each to the file of the present name, and every
declaration has noted what is planned for its file.  No call fails because a file is planned to go
elsewhere. -/
theorem plan_follows_names (hs : s.Unplanned) (hplanning : s.Planning t) :
    (t.plan.moves.map Move.source).Nodup ∧
    (∀ m, m ∈ t.plan.moves ↔ ∃ d ∈ t.declarations, d.ownsFile = true ∧
      d.shortName ≠ d.path.stem ∧ m.source = d.path ∧
      d.path.withName (d.shortName ++ d.path.suffix) = .ok m.target) ∧
    (∀ d ∈ t.declarations, d.ownsFile = true → d.shortName ≠ d.path.stem →
      ∃ target, d.path.withName (d.shortName ++ d.path.suffix) = .ok target) ∧
    (∀ d ∈ t.declarations,
      d.plannedPath = if d.ownsFile = true then t.plan.target? d.path else none) ∧
    ∀ source id newName p, (∀ new ∈ newName, '/' ∉ new.toList) →
      ∀ file planned requested, (t.apply source id newName p).failure? ≠
        some (.planConflict file planned requested) := by
  have ht := hplanning.inStep hs
  refine ⟨ht.wellFormed, fun m => ?_, fun d hd howns hdiffers => ?_, fun d hd => ?_,
    fun source id newName p hslash => ht.apply_ne_planConflict hslash⟩
  · rw [ht.wellFormed.mem_iff, ht.plan]
    constructor
    · rintro ⟨id, d, hd, hpath, htarget⟩
      obtain ⟨howns, hdiffers, hwith⟩ := Declaration.newPath?_eq_some_iff.1 htarget
      exact ⟨d, List.mem_of_getElem? hd, howns, hdiffers, hpath.symm, hwith⟩
    · rintro ⟨d, hd, howns, hdiffers, hpath, hwith⟩
      obtain ⟨id, hid⟩ := List.getElem?_of_mem hd
      exact ⟨id, d, hid, hpath.symm, Declaration.newPath?_eq_some_iff.2 ⟨howns, hdiffers, hwith⟩⟩
  · obtain ⟨id, hid⟩ := List.getElem?_of_mem hd
    obtain ⟨target, htarget⟩ := ht.nameable id d hid howns hdiffers
    exact ⟨target, (Declaration.newPath?_eq_some_iff.1 htarget).2.2⟩
  · obtain ⟨id, hid⟩ := List.getElem?_of_mem hd
    rw [ht.noted id d hid]
    split
    case isTrue howns => exact (ht.target?_path hid howns).symm
    case isFalse howns => simp [Declaration.newPath?, howns]

/-! ### Renamed, renamed back and renamed again -/

/-- A file without edits. -/
def blankFile : Source :=
  { path := ⟨"", ["Entity.php"]⟩, content := [] }

/-- A class of the namespace `App` whose file is named after it. -/
def ownerIn (shortName : Name) : Declaration :=
  { classIn shortName with ownsFile := true }

/-- Two classes with files of their own; two destinations for one file would be a fault. -/
def ownedFiles : Session :=
  opened false .error [ownerIn "Entity", ownerIn "Order"]

/-- One class renamed. -/
def renamedTo (s : Session) (id : DeclarationId) (new : Name) : Session :=
  (s.apply blankFile id (some new) Policy.valueObject).state.1

/-- The first class goes back to its name, the second takes the one it had in between, and the first
gets another one. -/
def renamedAround : Session :=
  (((ownedFiles.renamedTo 0 "Base").renamedTo 0 "Entity").renamedTo 1 "Base").renamedTo 0 "Root"

theorem plan_follows_names_around :
    ownedFiles.Unplanned ∧ ownedFiles.Planning renamedAround ∧
    (⟨⟨"", ["Entity.php"]⟩, ⟨"", ["Root.php"]⟩⟩ : Move) ∈ renamedAround.plan.moves ∧
    (⟨⟨"", ["Order.php"]⟩, ⟨"", ["Base.php"]⟩⟩ : Move) ∈ renamedAround.plan.moves ∧
    renamedAround.plan.size = 2 := by
  have hopened : ownedFiles.Unplanned := by
    constructor <;> decide +kernel
  have hplanning : ownedFiles.Planning renamedAround :=
    (((Planning.start.returned (by decide) (by decide +kernel)).returned (by decide)
      (by decide +kernel)).returned (by decide) (by decide +kernel)).returned (by decide)
      (by decide +kernel)
  obtain ⟨-, hmoves, -⟩ := plan_follows_names hopened hplanning
  let first : Declaration :=
    { ownerIn "Entity" with shortName := "Root", plannedPath := some ⟨"", ["Root.php"]⟩ }
  let second : Declaration :=
    { ownerIn "Order" with shortName := "Base", plannedPath := some ⟨"", ["Base.php"]⟩ }
  refine ⟨hopened, hplanning, (hmoves _).2 ⟨first, ?_⟩, (hmoves _).2 ⟨second, ?_⟩, ?_⟩ <;>
    decide +kernel

/-! ### A call that does not come to the plan -/

/-- A class whose file has no suffix. -/
def bareFile : Session :=
  opened false .firstWins [{ ownerIn "Entity" with path := ⟨"/", ["proj", "Entity"]⟩ }]

/-- A dot is no name of a file.  The class is called so nevertheless, while its file is still
planned to get the name before. -/
theorem plan_left_behind :
    bareFile.Unplanned ∧
    (bareFile.apply blankFile 0 (some "Base") Policy.valueObject).failure? = none ∧
    ((bareFile.renamedTo 0 "Base").apply blankFile 0 (some ".") Policy.valueObject).conflicts =
      false ∧
    ∃ m ∈ ((bareFile.renamedTo 0 "Base").renamedTo 0 ".").plan.moves,
      ¬∃ d ∈ ((bareFile.renamedTo 0 "Base").renamedTo 0 ".").declarations, d.ownsFile = true ∧
        d.shortName ≠ d.path.stem ∧ m.source = d.path ∧
        d.path.withName (d.shortName ++ d.path.suffix) = .ok m.target := by
  refine ⟨by constructor <;> decide +kernel, by decide +kernel, by decide +kernel,
    ⟨⟨"/", ["proj", "Entity"]⟩, ⟨"/", ["proj", "Base"]⟩⟩, by decide +kernel, ?_⟩
  decide +kernel

end Session

end Rechristen
