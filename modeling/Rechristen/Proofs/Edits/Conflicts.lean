import Rechristen.Proofs.Attempt
import Rechristen.Proofs.Edits.Splice

/-!
# Edits that never overlap

Whether edits can get into each other's way is settled by where they may be made.  Single edits are
made at *spots*: names and the starts of arguments.  Whole argument lists are rewritten as
*regions*.  If spots and regions fit together (`Compatible`), then an edit at a spot never fails,
and neither does the rewriting of a region after all shorter ones.
-/

namespace Rechristen

namespace Edits

theorem overlaps_eq_false_iff {a b : ByteSpan} :
    a.overlaps b = false ↔ b.stop ≤ a.start ∨ a.stop ≤ b.start := by
  simp [Span.overlaps, Decidable.imp_iff_not_or]

theorem contains_iff {a b : ByteSpan} :
    a.contains b = true ↔ a.start ≤ b.start ∧ b.stop ≤ a.stop := by
  simp [Span.contains]

/-- Two spots are one or do not overlap.  A region holds a spot or another region as a whole, or
they do not overlap. -/
structure Compatible (spot region : ByteSpan → Prop) : Prop where
  spots : ∀ a b, spot a → spot b → a ≠ b → a.overlaps b = false
  holds : ∀ r a, region r → spot a → r.contains a = true ∨ r.overlaps a = false
  nested : ∀ r q, region r → region q →
    r.contains q = true ∨ q.contains r = true ∨ r.overlaps q = false

/-- An edit conflicts with nothing if it overlaps nothing but edits of its own span. -/
theorem conflict?_eq_none_of {e : Edits} {span : ByteSpan}
    (hfree : ∀ q ∈ e.queue, q.span ≠ span → span.overlaps q.span = false) :
    e.conflict? span = none := by
  unfold conflict?
  rw [Option.map_eq_none_iff, List.find?_eq_none]
  intro q hq
  by_cases hsame : q.span = span
  · simp [hsame]
  · simp [hfree q hq hsame]

/-- An insertion at the end of a region does not overlap it. -/
theorem overlaps_point_stop (r : ByteSpan) : r.overlaps (Span.point r.stop) = false := by
  simp [Span.overlaps, Span.point]

/-- A region that holds one that is no shorter is the same. -/
theorem eq_of_contains {r q : ByteSpan} (hcontains : q.contains r = true)
    (hlength : q.length ≤ r.length) : q = r := by
  obtain ⟨rstart, rstop, hr⟩ := r
  obtain ⟨qstart, qstop, hq⟩ := q
  simp only [Span.contains, Bool.and_eq_true, decide_eq_true_eq] at hcontains
  simp only [Span.length] at hlength
  rw [Span.mk.injEq]
  omega

variable {spot region : ByteSpan → Prop}

/-- A region that is rewritten conflicts with nothing that is left, if no longer one was rewritten
before. -/
theorem Compatible.conflict?_absorb (hcompatible : Compatible spot region) {e : Edits}
    {r : ByteSpan} (hr : region r)
    (hqueue : ∀ q ∈ e.queue, spot q.span ∨ region q.span ∧ q.span.length ≤ r.length) :
    (e.absorb r).conflict? r = none := by
  refine conflict?_eq_none_of fun q hq hother => ?_
  obtain ⟨hq, hleft⟩ := List.mem_filter.1 hq
  -- What the region holds was taken away, but for an insertion at its end.
  have hheld : r.contains q.span = true → r.overlaps q.span = false := by
    intro hcontains
    have hend : q.span = Span.point r.stop := by simpa [isAbsorbedBy, hcontains] using hleft
    rw [hend]
    exact overlaps_point_stop r
  rcases hqueue q hq with hspot | ⟨hregion, hlength⟩
  · exact (hcompatible.holds r q.span hr hspot).elim hheld id
  · rcases hcompatible.nested r q.span hr hregion with hcontains | hcontains | hfree
    · exact hheld hcontains
    · exact absurd (eq_of_contains hcontains hlength) hother
    · exact hfree

end Edits

/-- What holds of all members of a list still holds after one of them was changed, if the change
keeps it. -/
theorem forall_mem_modify {α : Type} {p : α → Prop} {xs : List α} (hxs : ∀ x ∈ xs, p x)
    {f : α → α} (hf : ∀ x, p x → p (f x)) (index : Nat) : ∀ x ∈ xs.modify index f, p x := by
  intro x hx
  obtain ⟨i, hi⟩ := List.mem_iff_getElem?.1 hx
  rw [List.getElem?_modify] at hi
  obtain ⟨y, hy, rfl⟩ := Option.map_eq_some_iff.1 hi
  have hp := hxs y (List.mem_of_getElem? hy)
  split
  · exact hf y hp
  · exact hp

namespace Source

open Attempt (Calm)

/-- Edits are queued at spots only, and whatever may still be edited in the file is a spot or a
region. -/
structure Fits (spot region : ByteSpan → Prop) (s : Source) : Prop where
  queued : ∀ q ∈ s.edits.queue, spot q.span
  references : ∀ r ∈ s.references, spot r.span ∧ ∀ span ∈ r.aliasSpan, spot span
  calls : ∀ c ∈ s.calls, region c.span ∧
    ∀ a ∈ c.arguments, a.isUnpacked = false → spot (Span.point a.span.start)

variable {spot region : ByteSpan → Prop} {s : Source}

namespace Fits

/-- An edit at a spot never fails. -/
theorem replace (hcompatible : Edits.Compatible spot region) (hs : s.Fits spot region)
    {span : ByteSpan} (hspan : spot span) (text : String) :
    Calm (Fits spot region) (s.replace span text) := by
  have hnone : s.edits.conflict? span = none :=
    Edits.conflict?_eq_none_of fun q hq hother =>
      hcompatible.spots span q.span hspan (hs.queued q hq) (Ne.symm hother)
  unfold Source.replace Edits.replace
  rw [hnone]
  refine Calm.success ⟨fun q hq => ?_, hs.references, hs.calls⟩
  rcases Edits.mem_put hq with rfl | ⟨hq, -⟩
  · exact hspan
  · exact hs.queued q hq

/-- References may change as long as they stay where they are. -/
theorem modify_references (hs : s.Fits spot region) (index : Nat) {f : Reference → Reference}
    (hf : ∀ r, (f r).span = r.span ∧ (f r).aliasSpan = r.aliasSpan) :
    { s with references := s.references.modify index f }.Fits spot region := by
  refine ⟨hs.queued, forall_mem_modify hs.references (fun r hr => ?_) index, hs.calls⟩
  rw [(hf r).1, (hf r).2]
  exact hr

theorem respellReference (hcompatible : Edits.Compatible spot region) (hs : s.Fits spot region)
    (index : Nat) (name : Name) : Calm (Fits spot region) (s.respellReference index name) := by
  unfold Source.respellReference
  cases hsite : s.references[index]? with
  | none => exact Calm.success hs
  | some site =>
      have hspan := (hs.references site (List.mem_of_getElem? hsite)).1
      refine (hs.replace hcompatible hspan name).andThen fun _ t ht => ?_
      exact Calm.success (ht.modify_references index fun r => ⟨rfl, rfl⟩)

theorem respellAlias (hcompatible : Edits.Compatible spot region) (hs : s.Fits spot region)
    (index : Nat) (name : Name) : Calm (Fits spot region) (s.respellAlias index name) := by
  unfold Source.respellAlias
  cases hsite : s.references[index]?.bind Reference.aliasSpan with
  | none => exact Calm.success hs
  | some span =>
      obtain ⟨site, hsite, halias⟩ := Option.bind_eq_some_iff.1 hsite
      have hspan := (hs.references site (List.mem_of_getElem? hsite)).2 span halias
      refine (hs.replace hcompatible hspan name).andThen fun _ t ht => ?_
      exact Calm.success (ht.modify_references index fun r => ⟨rfl, rfl⟩)

theorem reword (hcompatible : Edits.Compatible spot region) (hs : s.Fits spot region) (index : Nat)
    (w : Rewording) : Calm (Fits spot region) (s.reword index w) := by
  unfold Source.reword
  refine Calm.andThen ?_ fun n t ht => ?_
  · cases w.name with
    | none => exact Calm.success hs
    | some name => exact (hs.respellReference hcompatible index name).map _
  · cases w.aliasName with
    | none => exact Calm.success ht
    | some name => exact (ht.respellAlias hcompatible index name).map _

theorem rewordFrom (hcompatible : Edits.Compatible spot region) (hs : s.Fits spot region)
    (index : Nat) (words : List Rewording) :
    Calm (Fits spot region) (s.rewordFrom index words) := by
  induction words generalizing s index with
  | nil => exact Calm.success hs
  | cons w rest ih =>
      refine (hs.reword hcompatible index w).andThen fun n t ht => ?_
      exact (ih ht (index + 1)).map _

end Fits

end Source

end Rechristen
