import Rechristen.Proofs.Edits.Conflicts
import Rechristen.Proofs.Session.Renaming

/-!
# Renaming without conflicts

A call of `apply` edits the file where the declaration has its name, and an eager policy also edits
its references.  All of these are spots, so no call fails because edits overlap.  A call may fail
for other reasons, half-way; declarations have their names where they had them, also then, and so
the next call finds the file as the first one did.
-/

namespace Rechristen.Session

open Attempt (Calm)

variable {spot region : ByteSpan → Prop} {s : Session} {source : Source}
  {spans : List (Option ByteSpan)}

/-- Where the declarations have their names. -/
def nameSpans (s : Session) : List (Option ByteSpan) :=
  s.declarations.map Declaration.nameSpan

/-- A declaration may change as long as it has its name where it had it. -/
theorem nameSpans_update {id : DeclarationId} {d : Declaration}
    (hd : s.nameSpans[id]? = some d.nameSpan) : (s.update id d).nameSpans = s.nameSpans := by
  have hset : (s.update id d).nameSpans = s.nameSpans.set id d.nameSpan := List.map_set
  rw [hset]
  apply List.ext_getElem?
  intro i
  rw [List.getElem?_set]
  split
  case isTrue hi =>
    subst hi
    rw [if_pos (List.getElem?_eq_some_iff.1 hd).1, hd]
  case isFalse => rfl

theorem calm_planMove (hs : s.nameSpans = spans) (m : Move) (supersede : Bool) :
    Calm (fun t => t.nameSpans = spans) (s.planMove m supersede) := by
  unfold planMove
  dsimp only
  split
  · exact Calm.failure hs rfl
  · exact Calm.success hs

theorem calm_planFile {id : DeclarationId} {d : Declaration} (hd : spans[id]? = some d.nameSpan)
    (hs : s.nameSpans = spans) : Calm (fun t => t.nameSpans = spans) (s.planFile id d) := by
  have hupdate {t : Session} (ht : t.nameSpans = spans) (planned : Option Path) :
      (t.update id { d with plannedPath := planned }).nameSpans = spans := by
    rw [nameSpans_update (by rw [ht, hd]), ht]
  unfold planFile
  split
  · exact Calm.success hs
  split
  · exact Calm.failure hs rfl
  refine (calm_planMove hs _ _).andThen fun accepted t ht => ?_
  split
  · exact Calm.success (hupdate ht none)
  split
  · exact Calm.success (hupdate ht _)
  · exact Calm.success ht

theorem calm_respellLocal (hcompatible : Edits.Compatible spot region) (hs : s.nameSpans = spans)
    (hsource : source.Fits spot region) (p : Policy) :
    Calm (fun left => left.1.nameSpans = spans ∧ left.2.Fits spot region)
      (s.respellLocal source p) := by
  have hreword := hsource.rewordFrom hcompatible 0 (source.references.map
    (s.localRewording p fun space => Resolver.ofReferences space source.references))
  unfold respellLocal Source.rewordAll
  dsimp only
  split
  · refine Calm.success ⟨?_, hreword.left⟩
    split <;> exact hs
  case h_2 cause hcause =>
    refine Calm.failure ⟨hs, hreword.left⟩ ?_
    have hcalm := hreword.calm
    simpa [Attempt.conflicts, Attempt.failure?, hcause] using hcalm

theorem calm_editName (hcompatible : Edits.Compatible spot region)
    (hsource : source.Fits spot region) {d : Declaration} (hd : ∀ span ∈ d.nameSpan, spot span) :
    Calm (Source.Fits spot region) (editName source d) := by
  unfold editName
  split
  case h_1 span hspan => exact hsource.replace hcompatible (hd span hspan) _
  case h_2 => exact Calm.success hsource

theorem calm_carryOut (hcompatible : Edits.Compatible spot region) (hs : s.nameSpans = spans)
    (hsource : source.Fits spot region) {id : DeclarationId} {d : Declaration}
    (hd : spans[id]? = some d.nameSpan) (hspot : ∀ span ∈ d.nameSpan, spot span) (new : Name)
    (p : Policy) :
    Calm (fun left => left.1.nameSpans = spans ∧ left.2.Fits spot region)
      (s.carryOut source id d new p) := by
  have hedit : Calm (Source.Fits spot region) (editName source { d with shortName := new }) :=
    calm_editName hcompatible hsource hspot
  unfold carryOut
  dsimp only
  refine (hedit.into fun edited hedited => ?_).andThen ?_
  · exact ⟨by rw [nameSpans_update (by rw [hs, hd]), hs], hedited⟩
  · rintro _ ⟨t, edited⟩ ⟨ht, hedited⟩
    -- The name is edited; now an eager policy goes through the references, and the move is planned.
    refine Calm.andThen ?_ ?_
    · split
      · refine calm_respellLocal hcompatible ?_ hedited p
        exact ht
      · exact Calm.success ⟨ht, hedited⟩
    · rintro _ ⟨u, respelled⟩ ⟨hu, hrespelled⟩
      have hplan : Calm (fun v => v.nameSpans = spans)
          (u.planFile id { d with shortName := new }) := calm_planFile hd hu
      refine (hplan.into fun v hv => ?_).andThen ?_
      · exact ⟨hv, hrespelled⟩
      rintro newPath ⟨v, respelled⟩ ⟨hv, hrespelled⟩
      exact Calm.success ⟨hv, hrespelled⟩

/-- **A call.**  Renaming a declaration that has its name at a spot of the file never fails because
edits overlap. -/
theorem calm_apply (hcompatible : Edits.Compatible spot region) (hs : s.nameSpans = spans)
    (hsource : source.Fits spot region) {id : DeclarationId}
    (hspot : ∀ span ∈ spans[id]?.join, spot span) (newName : Option Name) (p : Policy) :
    Calm (fun left => left.1.nameSpans = spans ∧ left.2.Fits spot region)
      (s.apply source id newName p) := by
  rcases apply_eq s source id newName p with ⟨-, happly⟩ | ⟨-, ⟨-, happly⟩ |
    ⟨d, new, hfound, -, -, ⟨-, reason, events, happly⟩ | ⟨-, happly⟩⟩⟩
  · rw [happly]
    exact Calm.failure ⟨hs, hsource⟩ rfl
  · rw [happly]
    exact Calm.success ⟨hs, hsource⟩
  · rw [happly]
    exact Calm.success ⟨hs, hsource⟩
  · rw [happly]
    have hd : spans[id]? = some d.nameSpan := by
      rw [← hs, nameSpans, List.getElem?_map, hfound, Option.map_some]
    refine calm_carryOut hcompatible ?_ hsource hd (fun span hspan => ?_) new p
    · rw [nameSpans, register_declarations]
      exact hs
    · exact hspot span (by rw [hd]; exact hspan)

/-! ## Any number of calls -/

/-- A declaration to be renamed. -/
structure Request where
  id : DeclarationId
  newName : Option Name
  policy : Policy

/-- Serve a request for a file. -/
def serve (left : Session × Source) (r : Request) :
    Attempt (Session × Source) (Option RenameRecord) :=
  left.1.apply left.2 r.id r.newName r.policy

/-- Serve requests one after the other, and go on after one that fails. -/
def serveAll (left : Session × Source) (requests : List Request) : Session × Source :=
  requests.foldl (fun left r => (serve left r).state) left

theorem fits_serveAll (hcompatible : Edits.Compatible spot region) {left : Session × Source}
    (hspans : left.1.nameSpans = spans) (hsource : left.2.Fits spot region)
    {requests : List Request}
    (hspots : ∀ r ∈ requests, ∀ span ∈ spans[r.id]?.join, spot span) :
    (serveAll left requests).1.nameSpans = spans ∧
      (serveAll left requests).2.Fits spot region := by
  induction requests generalizing left with
  | nil => exact ⟨hspans, hsource⟩
  | cons r rest ih =>
      obtain ⟨hfirst, hrest⟩ := List.forall_mem_cons.1 hspots
      obtain ⟨hspans', hsource'⟩ :=
        (calm_apply hcompatible hspans hsource hfirst r.newName r.policy).left
      exact ih hspans' hsource' hrest

end Rechristen.Session
