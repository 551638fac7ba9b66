import Mathlib.Data.List.Sort
import Rechristen.Pass.ArgumentLayout
import Rechristen.Pass.NamedArguments
import Rechristen.Pass.References
import Rechristen.Proofs.Edits.Conflicts

/-!
# Passes without conflicts

Each of the passes over a file edits it at spots and regions only.  If these are compatible, no pass
fails because edits overlap.  References and arguments are edited one by one, at spots.  Argument
lists are rewritten as a whole, the shorter ones first, so that a list is never rewritten after one
that holds it.
-/

namespace Rechristen

open Attempt (Calm)
open Source (Fits)

variable {spot region : ByteSpan → Prop} {source : Source}

/-! ## Fixing references -/

namespace References

theorem calm_fixFrom (hcompatible : Edits.Compatible spot region)
    (hsource : source.Fits spot region) (index : Nat) (fixes : List (Reference × Fix)) :
    Calm (fun left => left.1.Fits spot region) (fixFrom source index fixes) := by
  induction fixes generalizing source index with
  | nil => exact Calm.success hsource
  | cons first rest ih =>
      obtain ⟨site, fix⟩ := first
      cases fix with
      | keep => exact ih hsource (index + 1)
      | inexpressible new group => exact (ih hsource (index + 1)).into fun _ hleft => hleft
      | respell name =>
          rw [fixFrom]
          have hrespell := hsource.respellReference hcompatible index name
          refine (hrespell.into (f := (·, ({} : Notes))) fun _ hleft => hleft).andThen ?_
          rintro _ ⟨middle, _⟩ hmiddle
          exact (ih hmiddle (index + 1)).map _

theorem calm_fix (hcompatible : Edits.Compatible spot region) (hsource : source.Fits spot region)
    (registry : Registry) :
    Calm (fun left => left.1.Fits spot region) (fix registry source) := by
  have hfrom := calm_fixFrom hcompatible hsource 0 (source.references.map fun r =>
    (r, fixOf registry (fun space => Resolver.ofReferences space source.references) r))
  unfold fix
  dsimp only
  split
  · split
    · exact hfrom
    · exact hfrom.into fun _ hleft => hleft
  · exact hfrom

end References

/-! ## Naming arguments -/

namespace NamedArguments

/-- Calls may change as long as their lists and arguments stay where they are. -/
theorem fits_modify_calls (hsource : source.Fits spot region) (index position : Nat)
    (parameter : String) :
    { source with
      calls := source.calls.modify index fun c =>
        { c with
          arguments := c.arguments.modify position
            ({ · with isNamed := true, name := some parameter }) } }.Fits spot region := by
  refine ⟨hsource.queued, hsource.references, forall_mem_modify hsource.calls ?_ index⟩
  rintro c ⟨hregion, harguments⟩
  refine ⟨hregion, forall_mem_modify harguments ?_ position⟩
  exact fun a ha => ha

theorem calm_nameFrom (hcompatible : Edits.Compatible spot region)
    (hsource : source.Fits spot region) (index position : Nat) {pairs : List (Argument × String)}
    (hpairs : ∀ pair ∈ pairs, spot (Span.point pair.1.span.start)) :
    Calm (Fits spot region) (nameFrom source index position pairs) := by
  induction pairs generalizing source position with
  | nil => exact Calm.success hsource
  | cons pair rest ih =>
      obtain ⟨hfirst, hrest⟩ := List.forall_mem_cons.1 hpairs
      have hname : Calm (Fits spot region)
          (nameArgument source index position pair.1 pair.2) := by
        refine (hsource.replace hcompatible hfirst _).andThen fun _ t ht => ?_
        exact Calm.success (fits_modify_calls ht index position pair.2)
      exact hname.andThen fun _ t ht => ih ht (position + 1) hrest

theorem calm_nameCalls (hcompatible : Edits.Compatible spot region)
    (hsource : source.Fits spot region) (index : Nat)
    {calls : List (Call × Option (List String))}
    (hcalls : ∀ call ∈ calls, call.2.isSome →
      ∀ a ∈ call.1.arguments, spot (Span.point a.span.start)) :
    Calm (Fits spot region) (nameCalls source index calls) := by
  induction calls generalizing source index with
  | nil => exact Calm.success hsource
  | cons first rest ih =>
      obtain ⟨hfirst, hrest⟩ := List.forall_mem_cons.1 hcalls
      obtain ⟨call, names⟩ := first
      cases names with
      | none => exact ih hsource (index + 1) hrest
      | some parameters =>
          have hpairs : ∀ pair ∈ call.arguments.zip parameters,
              spot (Span.point pair.1.span.start) :=
            fun pair hpair => hfirst rfl pair.1 (List.of_mem_zip hpair).1
          refine (calm_nameFrom hcompatible hsource index 0 hpairs).andThen fun _ t ht => ?_
          exact (ih ht (index + 1) hrest).map _

/-- Only the arguments of a call without unpacked ones are named. -/
theorem isUnpacked_of_namesFor? {l : Lookup} {call : Call}
    (hnames : (namesFor? l source call).isSome) {a : Argument} (ha : a ∈ call.arguments) :
    a.isUnpacked = false := by
  unfold namesFor? at hnames
  split at hnames
  · cases hnames
  split at hnames
  case isTrue hplain =>
    have hall : ∀ b ∈ call.arguments, b.isNamed = false ∧ b.isUnpacked = false := by
      simpa [isPlain] using (Bool.and_eq_true_iff.1 hplain).2
    exact (hall a ha).2
  case isFalse => cases hnames

theorem calm_pass (hcompatible : Edits.Compatible spot region) (hsource : source.Fits spot region)
    (l : Lookup) : Calm (fun left => left.1.Fits spot region) (pass l source) := by
  have hcalls : Calm (Fits spot region)
      (nameCalls source 0 (source.calls.map fun c => (c, namesFor? l source c))) := by
    refine calm_nameCalls hcompatible hsource 0 fun pair hpair hnames a ha => ?_
    obtain ⟨call, hcall, rfl⟩ := List.mem_map.1 hpair
    exact (hsource.calls call hcall).2 a ha (isUnpacked_of_namesFor? hnames ha)
  unfold pass
  dsimp only
  split
  · exact hcalls.into fun _ hleft => hleft
  · exact hcalls.into fun _ hleft => hleft

end NamedArguments

/-! ## Laying argument lists out -/

namespace ArgumentLayout

/-- Texts can fail to be written, but reading them conflicts with nothing. -/
theorem isConflict_of_argumentTexts {arguments : List Argument} {cause : Failure}
    (htexts : argumentTexts source arguments = .error cause) : cause.isConflict = false := by
  induction arguments generalizing cause with
  | nil => cases htexts
  | cons a rest ih =>
      rw [argumentTexts] at htexts
      have hrender : ∀ cause, source.renderRange a.span = .error cause →
          cause.isConflict = false := by
        intro cause hcause
        unfold Source.renderRange at hcause
        split at hcause
        · cases hcause
        · cases hcause
          rfl
      split at htexts
      case h_1 => cases htexts
      case h_2 hcause =>
        cases htexts
        exact hrender _ hcause
      case h_3 hcause _ =>
        cases htexts
        exact ih hcause

theorem pairwise_eligible (style : Style) (calls : List Call) :
    (eligible style calls).Pairwise fun a b => a.1.span.length ≤ b.1.span.length := by
  refine (List.pairwise_mergeSort (fun a b c => ?_) (fun a b => ?_) _).imp
    fun hle => of_decide_eq_true hle
  · simpa using Nat.le_trans
  · simpa using Nat.le_total _ _

/-- Lists laid out from the shortest to the longest never get into each other's way. -/
theorem calm_layOutAll (hcompatible : Edits.Compatible spot region) (style : Style)
    {calls : List (Call × Nat)} (hregions : ∀ call ∈ calls, region call.1.span)
    (hsorted : calls.Pairwise fun a b => a.1.span.length ≤ b.1.span.length)
    (hqueue : ∀ q ∈ source.edits.queue, spot q.span ∨
      region q.span ∧ ∀ call ∈ calls, q.span.length ≤ call.1.span.length) :
    Calm (fun _ => True) (layOutAll style source calls) := by
  -- What is queued is a spot, or a list that is no longer than any of those still to come.
  induction calls generalizing source with
  | nil => exact Calm.success trivial
  | cons first rest ih =>
      obtain ⟨call, index⟩ := first
      obtain ⟨hregion, hregions⟩ := List.forall_mem_cons.1 hregions
      obtain ⟨hshortest, hsorted⟩ := List.pairwise_cons.1 hsorted
      rw [layOutAll, layOut]
      cases htexts : argumentTexts source call.arguments with
      | error cause => exact ⟨trivial, isConflict_of_argumentTexts htexts⟩
      | ok texts =>
          have hnone : (source.edits.absorb call.span).conflict? call.span = none := by
            refine hcompatible.conflict?_absorb hregion fun q hq => ?_
            exact (hqueue q hq).imp_right fun hlaid => ⟨hlaid.1, hlaid.2 _ List.mem_cons_self⟩
          simp only [Source.replaceRegion, Source.replace, Edits.replace, hnone,
            Attempt.andThen_success]
          refine (ih hregions hsorted fun q hq => ?_).map _
          rcases Edits.mem_put hq with rfl | ⟨hq, -⟩
          · exact Or.inr ⟨hregion, hshortest⟩
          · refine (hqueue q (List.mem_of_mem_filter hq)).imp_right fun hlaid => ⟨hlaid.1, ?_⟩
            exact fun other hother => hlaid.2 other (List.mem_cons_of_mem _ hother)

theorem calm_pass (hcompatible : Edits.Compatible spot region) (hsource : source.Fits spot region)
    (style : Style) : Calm (fun _ => True) (pass style source) := by
  have hmem : ∀ call ∈ eligible style source.calls, call.1 ∈ source.calls := by
    intro call hcall
    have hfiltered := List.mem_of_mem_filter ((List.mergeSort_perm _ _).mem_iff.1 hcall)
    exact (List.mem_zipIdx hfiltered).2.2 ▸ List.getElem_mem _
  have hall := calm_layOutAll hcompatible style
    (fun call hcall => (hsource.calls call.1 (hmem call hcall)).1)
    (pairwise_eligible style source.calls)
    (fun q hq => Or.inl (hsource.queued q hq))
  unfold pass
  dsimp only
  split
  · exact hall.into fun _ hleft => hleft
  · exact hall.into fun _ hleft => hleft

end ArgumentLayout

end Rechristen
