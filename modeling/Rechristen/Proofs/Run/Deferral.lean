import Rechristen.Proofs.Run.Visits
import Rechristen.Proofs.Session.Mode

/-!
# References left for later

An eager policy respells the references of a file as soon as a declaration in it is renamed.  The
same policy may also leave them for the fix in the end (`Policy.deferred`).  What is written in the
files then differs while the policies are followed, but the declarations do not: two runs that
follow the same policies, eagerly or not, stay abreast (`Abreast.followAll`), and they end with one
registry.
-/

namespace Rechristen

/-- The policy without its haste: the references are left for later. -/
def Policy.deferred (p : Policy) : Policy :=
  { p with eager := false }

namespace Session

variable {s t u v : Session}

theorem Alike.symm (h : Alike s t) : Alike t s :=
  ⟨⟨h.declarations.symm, h.registry.symm, h.table.symm⟩, h.plan.symm, h.collision.symm⟩

theorem Alike.trans (h : Alike s t) (h' : Alike t u) : Alike s u :=
  ⟨h.toSameNames.trans h'.toSameNames, h'.plan.trans h.plan, h'.collision.trans h.collision⟩

theorem Alike.update (h : Alike s t) (id : DeclarationId) (d : Declaration) :
    Alike (s.update id d) (t.update id d) := by
  refine ⟨⟨?_, h.registry, h.table⟩, h.plan, h.collision⟩
  rw [Session.update, Session.update, h.declarations]

theorem Alike.planMove (h : Alike s t) (m : Move) (supersede : Bool) :
    (s.planMove m supersede).Paired Alike (t.planMove m supersede) := by
  unfold Session.planMove
  dsimp only
  rw [h.plan, h.collision]
  cases s.plan.judge s.collision m.normal supersede <;>
    exact ⟨rfl, ⟨h.declarations, h.registry, h.table⟩, rfl, rfl⟩

theorem Alike.report (h : Alike s t) (d : Diagnostic) : Alike (s.report d) (t.report d) :=
  ⟨⟨h.declarations, h.registry, h.table⟩, h.plan, h.collision⟩

theorem Alike.planFile (h : Alike s t) (id : DeclarationId) (d : Declaration) :
    (s.planFile id d).Paired Alike (t.planFile id d) :=
  planFile_paired (fun m supersede h => h.planMove m supersede) (fun d h => h.update id d)
    (fun diagnostic h => h.report diagnostic) h d

/-- Two sessions after the same declaration got the same name. -/
theorem Halfway.alike {id : DeclarationId} {d : Declaration} {new : Name} (h : Alike s t)
    (hu : Halfway s u id d new) (hv : Halfway t v id d new)
    (hutable : u.table = s.table.rename d.name id { d with shortName := new })
    (hvtable : v.table = t.table.rename d.name id { d with shortName := new }) : Alike u v where
  registry := by rw [hv.registry, hu.registry, h.registry]
  table := by rw [hvtable, hutable, h.table]
  declarations := by rw [hv.declarations, hu.declarations, h.declarations]
  plan := by rw [hv.plan, hu.plan, h.plan]
  collision := by rw [hv.collision, hu.collision, h.collision]

variable {source source' after after' : Source} {id : DeclarationId} {newName : Option Name}
  {p q : Policy} {record record' : Option RenameRecord}

/-- A call that succeeds leaves the session as it was or ends with the planning of the move. -/
theorem apply_ok_outcome (happly : s.apply source id newName p = ⟨.ok record, (u, after)⟩) :
    (Alike s u ∧ ∀ d new, s.declarations[id]? = some d → newName = some new → new ≠ d.shortName →
      ¬s.Grants id d new) ∨
    ∃ d new halfway, newName = some new ∧ new ≠ d.shortName ∧ Halfway s halfway id d new ∧
      halfway.table = s.table.rename d.name id { d with shortName := new } ∧
      Alike (halfway.planFile id { d with shortName := new }).state u := by
  have hopen : s.finalized = false := open_of_ok (by rw [happly]; rfl)
  have houtcome := s.apply_outcome source id newName p
  rw [happly] at houtcome
  rcases houtcome with ⟨halike, -, hrefused⟩ | ⟨d, new, halfway, hnew, hdiffers, hhalfway, hend⟩
  · exact Or.inl ⟨halike, fun d new => hrefused d new hopen⟩
  · rcases hend with ⟨hconflict, -⟩ | ⟨htable, -, hplanned⟩
    · cases hconflict
    · exact Or.inr ⟨d, new, halfway, hnew, hdiffers, hhalfway, htable, hplanned⟩

/-- A call does the same to sessions that are alike, whatever the file and whatever the policy. -/
theorem Alike.apply (h : Alike s t)
    (hs : s.apply source id newName p = ⟨.ok record, (u, after)⟩)
    (ht : t.apply source' id newName q = ⟨.ok record', (v, after')⟩) : Alike u v := by
  rcases apply_ok_outcome hs with
    ⟨hsu, hrefused⟩ | ⟨d, new, x, hnew, hdiffers, hx, hxtable, hxu⟩ <;>
  rcases apply_ok_outcome ht with
    ⟨htv, hrefused'⟩ | ⟨d', new', y, hnew', hdiffers', hy, hytable, hyv⟩
  · exact (hsu.symm.trans h).trans htv
  -- What the one session grants, the other one grants too, so neither is refused alone.
  · have hfound : s.declarations[id]? = some d' := by rw [← h.declarations, hy.found]
    exact absurd (h.grants_iff.1 hy.granted) (hrefused d' new' hfound hnew' hdiffers')
  · have hfound : t.declarations[id]? = some d := by rw [h.declarations, hx.found]
    exact absurd (h.grants_iff.2 hx.granted) (hrefused' d new hfound hnew hdiffers)
  · obtain rfl := Option.some.inj (hnew.symm.trans hnew')
    obtain rfl : d = d' := by
      apply Option.some.inj
      rw [← hx.found, ← hy.found, h.declarations]
    have hplanned := ((Halfway.alike h hx hy hxtable hytable).planFile id
      { d with shortName := new }).left
    exact (hxu.symm.trans hplanned).trans hyv

end Session

namespace Run

open Session (Alike)

variable {r r' u u' : Run} {p : Policy} {stop : Stop}

/-! ## Two runs abreast -/

/-- The runs have the same declarations in the same files.  What is written in the files may
differ. -/
structure Abreast (r u : Run) : Prop where
  sessions : Alike r.session u.session
  frames : u.sources.map Source.frame = r.sources.map Source.frame

theorem frames_visit (hvisit : visit p r stop = ⟨.ok (), r'⟩) :
    r'.sources.map Source.frame = r.sources.map Source.frame := by
  rcases visit_ok hvisit with ⟨-, rfl⟩ | ⟨source, granted, left, hsource, happly, rfl⟩
  · rfl
  · have hframe := r.session.frame_apply source stop.id ((r.wish? p stop).map Wish.new) p
    rw [happly] at hframe
    exact Session.map_set_of_eq hsource hframe

/-- A visit without a wish changes nothing that matters. -/
theorem alike_visit (hwish : r.wish? p stop = none) (hvisit : visit p r stop = ⟨.ok (), r'⟩) :
    Alike r.session r'.session := by
  rcases visit_ok hvisit with ⟨-, rfl⟩ | ⟨source, granted, left, -, happly, rfl⟩
  · exact Alike.refl _
  · rw [hwish, Option.map_none] at happly
    rcases Session.apply_ok_outcome happly with ⟨halike, -⟩ | ⟨_, _, _, hsome, -⟩
    · exact halike
    · cases hsome

namespace Abreast

theorem wish? (h : Abreast r u) : u.wish? p.deferred stop = r.wish? p stop :=
  wish?_congr (p := p) h.frames (by rw [h.sessions.declarations])

theorem visit (h : Abreast r u) (hr : Run.visit p r stop = ⟨.ok (), r'⟩)
    (hu : Run.visit p.deferred u stop = ⟨.ok (), u'⟩) : Abreast r' u' := by
  refine ⟨?_, by rw [frames_visit hu, frames_visit hr, h.frames]⟩
  cases hwish : r.wish? p stop with
  | none =>
      exact ((alike_visit hwish hr).symm.trans h.sessions).trans
        (alike_visit (h.wish?.trans hwish) hu)
  | some w =>
      -- There is a wish, so the file is there in both runs, and the same call is made.
      have hwish' := h.wish?.trans hwish
      rcases visit_ok hr with ⟨hnone, -⟩ | ⟨source, granted, left, -, happly, rfl⟩
      · rw [hwish] at hnone
        cases hnone
      rcases visit_ok hu with ⟨hnone, -⟩ | ⟨source', granted', left', -, happly', rfl⟩
      · rw [hwish'] at hnone
        cases hnone
      rw [hwish] at happly
      rw [hwish'] at happly'
      exact h.sessions.apply happly happly'

theorem visitAll (h : Abreast r u) {stops : List Stop}
    (hr : Run.visitAll p r stops = ⟨.ok (), r'⟩)
    (hu : Run.visitAll p.deferred u stops = ⟨.ok (), u'⟩) : Abreast r' u' := by
  induction stops generalizing r u with
  | nil =>
      obtain ⟨-, rfl⟩ := Attempt.success_eq hr
      obtain ⟨-, rfl⟩ := Attempt.success_eq hu
      exact h
  | cons stop rest ih =>
      rw [Run.visitAll] at hr hu
      obtain ⟨_, middle, hfirst, hr⟩ := Attempt.andThen_ok hr
      obtain ⟨_, middle', hfirst', hu⟩ := Attempt.andThen_ok hu
      exact ih (h.visit hfirst hfirst') hr hu

theorem follow (h : Abreast r u) (hr : r.follow p = ⟨.ok (), r'⟩)
    (hu : u.follow p.deferred = ⟨.ok (), u'⟩) : Abreast r' u' := by
  obtain ⟨left, hvisits, hsession, hsources⟩ := follow_visitAll hr
  obtain ⟨left', hvisits', hsession', hsources'⟩ := follow_visitAll hu
  have hstops : u.stops = r.stops := stopsFrom_congr h.frames
  rw [hstops] at hvisits'
  have hleft := h.visitAll hvisits hvisits'
  exact ⟨(hsession.symm.trans hleft.sessions).trans hsession',
    by rw [hsources, hsources', hleft.frames]⟩

/-- **Abreast to the end.**  Runs that follow the same policies, one as they are and one without
their haste, do the same to the declarations. -/
theorem followAll (h : Abreast r u) {policies : List Policy}
    (hr : r.followAll policies = ⟨.ok (), r'⟩)
    (hu : u.followAll (policies.map Policy.deferred) = ⟨.ok (), u'⟩) : Abreast r' u' := by
  induction policies generalizing r u with
  | nil =>
      obtain ⟨-, rfl⟩ := Attempt.success_eq hr
      obtain ⟨-, rfl⟩ := Attempt.success_eq hu
      exact h
  | cons p rest ih =>
      rw [List.map_cons, Run.followAll] at hu
      rw [Run.followAll] at hr
      obtain ⟨_, middle, hfirst, hr⟩ := Attempt.andThen_ok hr
      obtain ⟨_, middle', hfirst', hu⟩ := Attempt.andThen_ok hu
      exact ih (h.follow hfirst hfirst') hr hu

end Abreast

/-! ## Files left alone -/

/-- A policy that is not eager touches no reference. -/
theorem references_visit (hp : p.eager = false) (hvisit : visit p r stop = ⟨.ok (), r'⟩) :
    r'.sources.map Source.references = r.sources.map Source.references := by
  rcases visit_ok hvisit with ⟨-, rfl⟩ | ⟨source, granted, left, hsource, happly, rfl⟩
  · rfl
  · refine Session.map_set_of_eq hsource ?_
    rcases Session.apply_references happly with hsame | ⟨edited, hsame, hrespelled⟩
    · exact hsame
    · rw [Session.Respelled, if_neg (by simp [hp])] at hrespelled
      rw [hrespelled, hsame]

theorem references_visitAll (hp : p.eager = false) {stops : List Stop}
    (hvisits : visitAll p r stops = ⟨.ok (), r'⟩) :
    r'.sources.map Source.references = r.sources.map Source.references := by
  induction stops generalizing r with
  | nil =>
      obtain ⟨-, rfl⟩ := Attempt.success_eq hvisits
      rfl
  | cons stop rest ih =>
      rw [visitAll] at hvisits
      obtain ⟨_, middle, hfirst, hrest⟩ := Attempt.andThen_ok hvisits
      rw [ih hrest, references_visit hp hfirst]

theorem references_followAll {policies : List Policy} (hdeferred : ∀ p ∈ policies, p.eager = false)
    (hfollow : r.followAll policies = ⟨.ok (), r'⟩) :
    r'.sources.map Source.references = r.sources.map Source.references := by
  induction policies generalizing r with
  | nil =>
      obtain ⟨-, rfl⟩ := Attempt.success_eq hfollow
      rfl
  | cons p rest ih =>
      obtain ⟨hp, hlater⟩ := List.forall_mem_cons.1 hdeferred
      rw [followAll] at hfollow
      obtain ⟨_, middle, hfirst, hrest⟩ := Attempt.andThen_ok hfollow
      obtain ⟨left, hvisits, -, hsources⟩ := follow_visitAll hfirst
      rw [ih hlater hrest, hsources, references_visitAll hp hvisits]

end Run

end Rechristen
