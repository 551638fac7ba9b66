import Rechristen.Proofs.Run.Following
import Rechristen.Proofs.Session.Wishes

/-!
# Visits to declarations

The pass of a policy visits the declarations file by file.  At each of them the policy may have a
wish (`wish?`), which is granted or refused (`visit_cases`).  The visits may also be made in another
order than that of the files, with `visitAll`; `follow` is the pass in that order
(`follow_visitAll`).
-/

namespace Rechristen

/-- A declaration at which a policy is followed, and the place of its file. -/
structure Stop where
  file : Nat
  id : DeclarationId
  deriving DecidableEq

namespace Run

open Session (Alike Renamed SameNames)

variable {p : Policy} {r r' : Run} {stop : Stop}

/-- The declarations of files, the first of which is at the place `file`. -/
def stopsFrom (file : Nat) : List Source → List Stop
  | [] => []
  | source :: rest => source.declarations.map (Stop.mk file) ++ stopsFrom (file + 1) rest

/-- The declarations of a run, file by file. -/
def stops (r : Run) : List Stop :=
  stopsFrom 0 r.sources

/-- Follow a policy at one declaration. -/
def visit (p : Policy) (r : Run) (stop : Stop) : Attempt Run Unit :=
  match r.sources[stop.file]? with
  | none => .success () r
  | some source =>
    let newName := r.session.declarations[stop.id]?.bind fun d =>
      p.tryRename d (d.place (some source.relativePath))
    ((r.session.apply source stop.id newName p).into fun left =>
      ⟨left.1, r.sources.set stop.file left.2⟩).map fun _ => ()

/-- Follow a policy at declarations, one after the other. -/
def visitAll (p : Policy) (r : Run) : List Stop → Attempt Run Unit
  | [] => .success () r
  | stop :: rest => (visit p r stop).andThen fun _ r => visitAll p r rest

/-- What a policy wishes for a declaration. -/
def wish? (p : Policy) (r : Run) (stop : Stop) : Option Wish :=
  r.sources[stop.file]?.bind fun source =>
    r.session.declarations[stop.id]?.bind fun d =>
      (p.tryRename d (d.place (some source.relativePath))).map (Wish.mk stop.id d)

/-- The wishes of a policy. -/
def wishes (p : Policy) (r : Run) : List Wish :=
  r.stops.filterMap (r.wish? p)

theorem wish?_eq_some {w : Wish} (hwish : r.wish? p stop = some w) :
    w.id = stop.id ∧ r.session.declarations[w.id]? = some w.declaration ∧
      w.new ≠ w.declaration.shortName := by
  obtain ⟨source, -, hwish⟩ := Option.bind_eq_some_iff.1 hwish
  obtain ⟨d, hd, hwish⟩ := Option.bind_eq_some_iff.1 hwish
  obtain ⟨new, hnew, rfl⟩ := Option.map_eq_some_iff.1 hwish
  refine ⟨rfl, hd, ?_⟩
  unfold Policy.tryRename Policy.newName? at hnew
  split at hnew
  · simpa using (Option.filter_eq_some_iff.1 hnew).2
  · cases hnew

/-- A wish depends on the declaration and on the place of its file. -/
theorem wish?_congr (hframes : r'.sources.map Source.frame = r.sources.map Source.frame)
    (hfound : r'.session.declarations[stop.id]? = r.session.declarations[stop.id]?) :
    r'.wish? p stop = r.wish? p stop := by
  have hframe : r'.sources[stop.file]?.map Source.frame =
      r.sources[stop.file]?.map Source.frame := by
    rw [← List.getElem?_map, hframes, List.getElem?_map]
  unfold wish?
  rw [hfound]
  cases hsource : r.sources[stop.file]? with
  | none =>
      rw [hsource, Option.map_none, Option.map_eq_none_iff] at hframe
      rw [hframe]
  | some source =>
      rw [hsource, Option.map_some] at hframe
      obtain ⟨source', hsource', hsame⟩ := Option.map_eq_some_iff.1 hframe
      have hpath : source'.relativePath = source.relativePath := congrArg Prod.fst hsame
      rw [hsource', Option.bind_some, Option.bind_some, hpath]

theorem stopsFrom_congr {file : Nat} {sources sources' : List Source}
    (hframes : sources'.map Source.frame = sources.map Source.frame) :
    stopsFrom file sources' = stopsFrom file sources := by
  induction sources generalizing file sources' with
  | nil => rw [List.map_eq_nil_iff.1 hframes]
  | cons source rest ih =>
      obtain ⟨source', rest', rfl, hsource, hrest⟩ := List.map_eq_cons_iff.1 hframes
      have hdeclarations : source'.declarations = source.declarations := congrArg Prod.snd hsource
      rw [stopsFrom, stopsFrom, hdeclarations, ih hrest]

theorem map_id_stopsFrom (file : Nat) (sources : List Source) :
    (stopsFrom file sources).map Stop.id = sources.flatMap Source.declarations := by
  induction sources generalizing file with
  | nil => rfl
  | cons source rest ih =>
      rw [stopsFrom, List.map_append, List.map_map, ih, List.flatMap_cons]
      congr 1
      exact List.map_id _

theorem mem_stopsFrom {sources : List Source} {i : Nat} {source : Source}
    (hsource : sources[i]? = some source) {id : DeclarationId} (hid : id ∈ source.declarations)
    (file : Nat) : ⟨file + i, id⟩ ∈ stopsFrom file sources := by
  induction sources generalizing i file with
  | nil => simp at hsource
  | cons first rest ih =>
      rw [stopsFrom, List.mem_append]
      cases i with
      | zero =>
          obtain rfl : first = source := by simpa using hsource
          exact Or.inl (List.mem_map_of_mem hid)
      | succ i =>
          rw [List.getElem?_cons_succ] at hsource
          have hlater := ih hsource (file + 1)
          rw [Nat.add_assoc, Nat.add_comm 1 i] at hlater
          exact Or.inr hlater

/-! ## One visit -/

/-- A visit that does not fail applies the wish, if the file is there. -/
theorem visit_ok (hvisit : visit p r stop = ⟨.ok (), r'⟩) :
    (r.wish? p stop = none ∧ r' = r) ∨
      ∃ source granted left, r.sources[stop.file]? = some source ∧
        r.session.apply source stop.id ((r.wish? p stop).map Wish.new) p = ⟨.ok granted, left⟩ ∧
        r' = ⟨left.1, r.sources.set stop.file left.2⟩ := by
  unfold visit at hvisit
  cases hsource : r.sources[stop.file]? with
  | none =>
      rw [hsource] at hvisit
      obtain ⟨-, rfl⟩ := Attempt.success_eq hvisit
      exact Or.inl ⟨by rw [wish?, hsource, Option.bind_none], rfl⟩
  | some source =>
      rw [hsource] at hvisit
      obtain ⟨granted, hinto, -⟩ := Attempt.map_ok hvisit
      obtain ⟨left, happly, rfl⟩ := Attempt.into_ok hinto
      have hnew : (r.wish? p stop).map Wish.new = (r.session.declarations[stop.id]?.bind fun d =>
          p.tryRename d (d.place (some source.relativePath))) := by
        rw [wish?, hsource, Option.bind_some, Option.map_bind]
        simp only [Function.comp_def, Option.map_map, Option.map_id']
      exact Or.inr ⟨source, granted, left, rfl, by rw [hnew, happly], rfl⟩

/-- What a visit that does not fail comes to.  The files keep their places and their declarations.
Nothing else changes if there is no wish or it is refused; otherwise the declaration is renamed. -/
theorem visit_cases (hregistry : r.session.registry.WellFormed)
    (hvisit : visit p r stop = ⟨.ok (), r'⟩) :
    r'.sources.map Source.frame = r.sources.map Source.frame ∧
    ((Alike r.session r'.session ∧
        ∀ w, r.wish? p stop = some w → ¬r.session.Grants w.id w.declaration w.new) ∨
      ∃ w, r.wish? p stop = some w ∧ r.session.Grants w.id w.declaration w.new ∧
        Renamed r.session r'.session w.id w.declaration w.new ∧
        r'.session.collision = r.session.collision ∧
        r'.session.view = r.session.view.after r.session.collision w) := by
  rcases visit_ok hvisit with ⟨hwish, rfl⟩ | ⟨source, granted, left, hsource, happly, rfl⟩
  · refine ⟨rfl, Or.inl ⟨Alike.refl _, fun w hw => ?_⟩⟩
    rw [hwish] at hw
    cases hw
  constructor
  · have hframe := r.session.frame_apply source stop.id ((r.wish? p stop).map Wish.new) p
    rw [happly] at hframe
    exact Session.map_set_of_eq hsource hframe
  cases hwish : r.wish? p stop with
  | none =>
      rw [hwish, Option.map_none] at happly
      refine Or.inl ⟨?_, fun w hw => by cases hw⟩
      rcases r.session.apply_outcome source stop.id none p with ⟨halike, -⟩ | ⟨_, _, _, hsome, -⟩
      · rwa [happly] at halike
      · cases hsome
  | some w =>
      -- The wish is for another name, so the call comes to a claim.
      obtain ⟨hid, hfound, hdiffers⟩ := wish?_eq_some hwish
      rw [hwish, Option.map_some, ← hid] at happly
      by_cases hgranted : r.session.Grants w.id w.declaration w.new
      · have hok : (r.session.apply source w.id (some w.new) p).failure? = none := by
          rw [happly]
          rfl
        obtain ⟨hrenamed, hcollision, htargets⟩ :=
          Session.renamed_of_granted hok hfound hdiffers hgranted
        rw [happly] at hrenamed hcollision htargets
        exact Or.inr ⟨w, rfl, hgranted, hrenamed, hcollision, hrenamed.view hregistry htargets⟩
      · have halike : Alike r.session (r.session.apply source w.id (some w.new) p).state.1 :=
          Session.alike_of_refused hfound hgranted
        rw [happly] at halike
        refine Or.inl ⟨halike, fun w' hw => ?_⟩
        rwa [← Option.some.inj hw]

/-! ## The order of the files -/

theorem visitAll_append (p : Policy) (r : Run) (first second : List Stop) :
    visitAll p r (first ++ second) =
      (visitAll p r first).andThen fun _ r => visitAll p r second := by
  induction first generalizing r with
  | nil => rfl
  | cons stop rest ih =>
      simp only [List.cons_append, visitAll]
      generalize visit p r stop = a
      obtain ⟨result, middle⟩ := a
      cases result with
      | error cause => rfl
      | ok _ => exact ih middle

/-- Visiting the declarations of one file is following the policy in it. -/
theorem visitAll_followIn {session left : Session} {source source' : Source} {count : Nat}
    {ids : List DeclarationId} (before after : List Source)
    (hfollow : followIn p session source ids = ⟨.ok count, (left, source')⟩) :
    visitAll p ⟨session, before ++ source :: after⟩ (ids.map (Stop.mk before.length)) =
      ⟨.ok (), ⟨left, before ++ source' :: after⟩⟩ := by
  induction ids generalizing session source count with
  | nil =>
      obtain ⟨-, hstate⟩ := Attempt.success_eq hfollow
      obtain ⟨rfl, rfl⟩ := Prod.mk.inj hstate
      rfl
  | cons id rest ih =>
      rw [followIn] at hfollow
      obtain ⟨record, ⟨middle, between⟩, happly, hrest⟩ := Attempt.andThen_ok hfollow
      obtain ⟨_, hrest, -⟩ := Attempt.map_ok hrest
      have hvisit : visit p ⟨session, before ++ source :: after⟩ ⟨before.length, id⟩ =
          ⟨.ok (), ⟨middle, before ++ between :: after⟩⟩ := by
        simp only [visit, List.getElem?_append_right (Nat.le_refl _), Nat.sub_self,
          List.getElem?_cons_zero]
        rw [happly]
        simp [Attempt.into, Attempt.map, Except.map]
      rw [List.map_cons, visitAll, hvisit]
      exact ih hrest

theorem visitAll_followOver {session left : Session} {sources after : List Source} {count : Nat}
    (before : List Source) (hfollow : followOver p session sources = ⟨.ok count, (left, after)⟩) :
    visitAll p ⟨session, before ++ sources⟩ (stopsFrom before.length sources) =
      ⟨.ok (), ⟨left, before ++ after⟩⟩ := by
  induction sources generalizing session after count before with
  | nil =>
      obtain ⟨-, hstate⟩ := Attempt.success_eq hfollow
      obtain ⟨rfl, rfl⟩ := Prod.mk.inj hstate
      rfl
  | cons first rest ih =>
      rw [followOver] at hfollow
      generalize hhead : followIn p session first first.declarations = head at hfollow
      obtain ⟨result, middle, first'⟩ := head
      cases result with
      | error cause => exact absurd hfollow Attempt.failure_ne
      | ok n =>
          dsimp only at hfollow
          generalize htail : followOver p middle rest = tail at hfollow
          obtain ⟨result, left', rest'⟩ := tail
          cases result with
          | error cause => simp [Except.map] at hfollow
          | ok m =>
              obtain ⟨-, hstate⟩ := Attempt.success_eq hfollow
              obtain ⟨rfl, rfl⟩ := Prod.mk.inj hstate
              have hlater := ih (before ++ [first']) htail
              rw [List.append_assoc, List.length_append] at hlater
              rw [stopsFrom, visitAll_append, visitAll_followIn before rest hhead]
              simpa [Attempt.andThen] using hlater

/-- The pass of a policy visits the declarations file by file. -/
theorem follow_visitAll (hfollow : r.follow p = ⟨.ok (), r'⟩) :
    ∃ left, visitAll p r r.stops = ⟨.ok (), left⟩ ∧ Alike left.session r'.session ∧
      r'.sources = left.sources := by
  unfold follow at hfollow
  obtain ⟨count, middle, hstage, hrest⟩ := Attempt.andThen_ok hfollow
  obtain ⟨events, passed, hpass, rfl⟩ := stage_ok hstage
  obtain ⟨⟨left, sources⟩, hover, rfl⟩ := Attempt.into_ok hpass
  refine ⟨⟨left, sources⟩, visitAll_followOver [] hover, ?_⟩
  obtain ⟨-, rfl⟩ := Attempt.success_eq hrest
  split
  · exact ⟨⟨SameNames.note _ _, rfl, rfl⟩, rfl⟩
  · exact ⟨⟨(SameNames.note _ _).trans (SameNames.note _ _), rfl, rfl⟩, rfl⟩

end Run

end Rechristen
