import Rechristen.Proofs.Attempt
import Rechristen.Proofs.Session.Renaming

/-!
# Sessions in two modes

A session knows whether it belongs to a dry run, but nothing asks for it before the session is
finalized.  So two open sessions that differ in their mode alone are *twins*, and whatever is asked
of both of them has the same result and leaves twins behind.
-/

namespace Rechristen

namespace Attempt

variable {σ τ α β : Type}

/-- Two attempts have one result, and the states that they leave behind are related. -/
structure Paired (related : σ → τ → Prop) (a : Attempt σ α) (b : Attempt τ α) : Prop where
  result : b.result = a.result
  left : related a.state b.state

namespace Paired

variable {related : σ → τ → Prop} {a : Attempt σ α} {b : Attempt τ α}

theorem success (value : α) {s : σ} {t : τ} (hstates : related s t) :
    Paired related (Attempt.success value s) (Attempt.success value t) :=
  ⟨rfl, hstates⟩

theorem failure (cause : Failure) {s : σ} {t : τ} (hstates : related s t) :
    Paired related (Attempt.failure cause s : Attempt σ α) (Attempt.failure cause t) :=
  ⟨rfl, hstates⟩

theorem andThen (hpaired : Paired related a b) {f : α → σ → Attempt σ β} {g : α → τ → Attempt τ β}
    (hnext : ∀ value s t, related s t → Paired related (f value s) (g value t)) :
    Paired related (a.andThen f) (b.andThen g) := by
  obtain ⟨result, s⟩ := a
  obtain ⟨result', t⟩ := b
  obtain ⟨hresult, hstates⟩ := hpaired
  obtain rfl : result' = result := hresult
  cases result' with
  | error cause => exact ⟨rfl, hstates⟩
  | ok value => exact hnext value s t hstates

theorem map (hpaired : Paired related a b) (f : α → β) : Paired related (a.map f) (b.map f) := by
  refine ⟨?_, hpaired.left⟩
  rw [Attempt.map, Attempt.map, hpaired.result]

theorem into {σ' τ' : Type} {related' : σ' → τ' → Prop} (hpaired : Paired related a b) {f : σ → σ'}
    {g : τ → τ'} (hstates : ∀ s t, related s t → related' (f s) (g t)) :
    Paired related' (a.into f) (b.into g) :=
  ⟨hpaired.result, hstates _ _ hpaired.left⟩

/-- If the one attempt succeeds, so does the other. -/
theorem exists_ok (hpaired : Paired related a b) {value : α} {s : σ} (ha : a = ⟨.ok value, s⟩) :
    ∃ t, b = ⟨.ok value, t⟩ ∧ related s t := by
  obtain ⟨result, t⟩ := b
  subst ha
  obtain ⟨rfl, hstates⟩ := hpaired
  exact ⟨t, rfl, hstates⟩

end Paired

end Attempt

namespace Session

open Attempt (Paired)

variable {s t : Session}

/-- Planning the move of a file keeps sessions related that stay so when a move is planned, a
declaration changes or something is reported. -/
theorem planFile_paired {related : Session → Session → Prop} {id : DeclarationId}
    (hmove : ∀ {s t : Session} (m : Move) (supersede : Bool), related s t →
      (s.planMove m supersede).Paired related (t.planMove m supersede))
    (hupdate : ∀ {s t : Session} (d : Declaration), related s t →
      related (s.update id d) (t.update id d))
    (hreport : ∀ {s t : Session} (diagnostic : Diagnostic), related s t →
      related (s.report diagnostic) (t.report diagnostic))
    (hstates : related s t) (d : Declaration) :
    (s.planFile id d).Paired related (t.planFile id d) := by
  unfold planFile
  split
  · exact Paired.success none hstates
  split
  · exact Paired.failure _ hstates
  case h_2 target _ =>
    refine (hmove _ _ hstates).andThen fun accepted s t hstates => ?_
    split
    · exact Paired.success none (hupdate _ hstates)
    split
    · exact Paired.success _ (hupdate _ hstates)
    · exact Paired.success none (hreport _ hstates)

/-- The session in a mode. -/
def inMode (s : Session) (dryRun : Bool) : Session :=
  { s with dryRun }

/-- `t` is the open session `s`, perhaps in another mode. -/
def Twin (s t : Session) : Prop :=
  s.finalized = false ∧ ∃ dryRun, t = s.inMode dryRun

namespace Twin

theorem sameNames (htwin : Twin s t) : SameNames s t := by
  obtain ⟨-, dryRun, rfl⟩ := htwin
  exact ⟨rfl, rfl, rfl⟩

theorem note (htwin : Twin s t) (events : List Event) : Twin (s.note events) (t.note events) := by
  obtain ⟨hopen, dryRun, rfl⟩ := htwin
  exact ⟨hopen, dryRun, rfl⟩

theorem report (htwin : Twin s t) (d : Diagnostic) : Twin (s.report d) (t.report d) := by
  obtain ⟨hopen, dryRun, rfl⟩ := htwin
  exact ⟨hopen, dryRun, rfl⟩

theorem update (htwin : Twin s t) (id : DeclarationId) (d : Declaration) :
    Twin (s.update id d) (t.update id d) := by
  obtain ⟨hopen, dryRun, rfl⟩ := htwin
  exact ⟨hopen, dryRun, rfl⟩

theorem recordRename (htwin : Twin s t) (r : RenameRecord) :
    Twin (s.recordRename r) (t.recordRename r) := by
  obtain ⟨hopen, dryRun, rfl⟩ := htwin
  exact ⟨hopen, dryRun, rfl⟩

theorem index (htwin : Twin s t) (id : DeclarationId) : Twin (s.index id).2 (t.index id).2 := by
  obtain ⟨hopen, dryRun, rfl⟩ := htwin
  unfold Session.index
  cases hfound : s.declarations[id]? with
  | none =>
      simp only [inMode, hfound]
      exact ⟨hopen, dryRun, rfl⟩
  | some d =>
      simp only [inMode, hfound]
      cases hadd : s.table.add id d with
      | mk granted table => cases granted <;> exact ⟨hopen, dryRun, rfl⟩

/-! ## Renaming -/

theorem register (htwin : Twin s t) (old new : Name) :
    (t.register old new).1 = (s.register old new).1 ∧
      Twin (s.register old new).2 (t.register old new).2 := by
  obtain ⟨hopen, dryRun, rfl⟩ := htwin
  unfold Session.register inMode
  generalize s.registry.register old new = registered
  exact ⟨rfl, hopen, dryRun, rfl⟩

theorem claim (htwin : Twin s t) (id : DeclarationId) (d : Declaration) (new : Name) (p : Policy) :
    (t.claim id d new p).1 = (s.claim id d new p).1 ∧
      Twin (s.claim id d new p).2 (t.claim id d new p).2 := by
  have hfile : t.fileOf = s.fileOf := by
    obtain ⟨-, dryRun, rfl⟩ := htwin
    rfl
  unfold Session.claim
  rw [htwin.sameNames.table, hfile]
  cases s.table.rival? new id with
  | some owner => exact ⟨rfl, (htwin.report _).note _⟩
  | none =>
      dsimp only
      obtain ⟨haccepted, hleft⟩ := htwin.register d.name new
      generalize s.register d.name new = registered at haccepted hleft
      generalize t.register d.name new = registered' at haccepted hleft
      obtain ⟨accepted, s⟩ := registered
      obtain ⟨accepted', t⟩ := registered'
      obtain rfl : accepted' = accepted := haccepted
      cases accepted' with
      | true => exact ⟨rfl, hleft⟩
      | false => exact ⟨rfl, hleft.report _⟩

theorem planMove (htwin : Twin s t) (m : Move) (supersede : Bool) :
    (s.planMove m supersede).Paired Twin (t.planMove m supersede) := by
  obtain ⟨hopen, dryRun, rfl⟩ := htwin
  unfold Session.planMove
  simp only [inMode]
  cases s.plan.judge s.collision m.normal supersede <;> exact ⟨rfl, hopen, dryRun, rfl⟩

theorem planFile (htwin : Twin s t) (id : DeclarationId) (d : Declaration) :
    (s.planFile id d).Paired Twin (t.planFile id d) :=
  planFile_paired (fun m supersede htwin => htwin.planMove m supersede)
    (fun d htwin => htwin.update id d) (fun diagnostic htwin => htwin.report diagnostic) htwin d

/-- Two states of a session and a file: the sessions are twins and the file is the same. -/
def AtFile (a b : Session × Source) : Prop :=
  Twin a.1 b.1 ∧ b.2 = a.2

theorem respellLocal (htwin : Twin s t) (source : Source) (p : Policy) :
    (s.respellLocal source p).Paired AtFile (t.respellLocal source p) := by
  obtain ⟨hopen, dryRun, rfl⟩ := htwin
  have hsame : (s.inMode dryRun).localRewording p = s.localRewording p := by
    funext resolver
    exact localRewording_congr rfl rfl p resolver
  unfold Session.respellLocal
  rw [hsame]
  dsimp only
  generalize source.rewordAll _ = attempt
  obtain ⟨result, after⟩ := attempt
  cases result with
  | error cause => exact Paired.failure cause ⟨⟨hopen, dryRun, rfl⟩, rfl⟩
  | ok count =>
      refine Paired.success () ⟨?_, rfl⟩
      dsimp only
      split
      · exact ⟨hopen, dryRun, rfl⟩
      · exact ⟨hopen, dryRun, rfl⟩

theorem carryOut (htwin : Twin s t) (source : Source) (id : DeclarationId) (d : Declaration)
    (new : Name) (p : Policy) :
    (s.carryOut source id d new p).Paired AtFile (t.carryOut source id d new p) := by
  unfold Session.carryOut
  have hedited : ((editName source { d with shortName := new }).into
      (s.update id { d with shortName := new }, ·)).Paired AtFile
      ((editName source { d with shortName := new }).into
        (t.update id { d with shortName := new }, ·)) :=
    ⟨rfl, htwin.update id _, rfl⟩
  refine hedited.andThen ?_
  rintro _ ⟨s, source⟩ ⟨t, source'⟩ ⟨htwin, hsource⟩
  obtain rfl : source' = source := hsource
  have hnamed : Twin { s with table := s.table.rename d.name id { d with shortName := new } }
      { t with table := t.table.rename d.name id { d with shortName := new } } := by
    obtain ⟨hopen, dryRun, ht⟩ := htwin
    obtain rfl : t = s.inMode dryRun := ht
    exact ⟨hopen, dryRun, rfl⟩
  refine Paired.andThen ?_ ?_
  · split
    · exact hnamed.respellLocal source' p
    · exact Paired.success () ⟨hnamed, rfl⟩
  · rintro _ ⟨s, source⟩ ⟨t, source'⟩ ⟨htwin, hsource⟩
    obtain rfl : source' = source := hsource
    have hplanned : ((s.planFile id { d with shortName := new }).into (·, source')).Paired AtFile
        ((t.planFile id { d with shortName := new }).into (·, source')) :=
      (htwin.planFile id _).into fun s t htwin => ⟨htwin, rfl⟩
    refine hplanned.andThen ?_
    rintro newPath ⟨s, source⟩ ⟨t, source'⟩ ⟨htwin, hsource⟩
    exact Paired.success _ ⟨htwin.recordRename _, hsource⟩

theorem apply (htwin : Twin s t) (source : Source) (id : DeclarationId) (newName : Option Name)
    (p : Policy) : (s.apply source id newName p).Paired AtFile (t.apply source id newName p) := by
  have hclosed : t.finalized = s.finalized := by
    obtain ⟨-, dryRun, rfl⟩ := htwin
    rfl
  unfold Session.apply
  rw [hclosed, htwin.sameNames.declarations, htwin.1]
  cases s.declarations[id]? with
  | none => exact Paired.success none ⟨htwin, rfl⟩
  | some d =>
      dsimp only
      cases newName.filter (· ≠ d.shortName) with
      | none => exact Paired.success none ⟨htwin, rfl⟩
      | some new =>
          dsimp only
          obtain ⟨hgranted, hleft⟩ := htwin.claim id d (Name.qualify d.space new) p
          generalize s.claim id d (Name.qualify d.space new) p = claim at hgranted hleft
          generalize t.claim id d (Name.qualify d.space new) p = claim' at hgranted hleft
          obtain ⟨granted, s⟩ := claim
          obtain ⟨granted', t⟩ := claim'
          obtain rfl : granted' = granted := hgranted
          cases granted' with
          | false => exact Paired.success none ⟨hleft, rfl⟩
          | true => exact hleft.carryOut source id d new p

end Twin

end Session

end Rechristen
