import Rechristen.Proofs.Edits.Absorption

/-!
# What a refused request leaves behind

There are four ways to ask for a change of a file: a span is replaced, a region is replaced with the
edits inside it, a reference is given a new text, or the alias of an import is.  Each comes to one
change of the text (`Request.change?`), and it is refused if an edit is in the way
(`Change.Blocked`).

A refused request has touched no reference.  It has not touched the queue either, with one
exception: the edits inside a region are dropped before it is seen whether the region can be
replaced, so that they are lost if it cannot (`refused_request`).
-/

namespace Rechristen

namespace Source

open Edits

/-! ## When a change is refused -/

/-- An edit that the change overlaps is in its way, unless it gives way to the change: an edit of
the same span gives way to a replacement, and an edit inside a region to the region. -/
def Change.Blocked (e : Edits) : Change → Prop
  | .replacing span _ => ∃ q ∈ e.queue, span.overlaps q.span = true ∧ q.span ≠ span
  | .region span _ => ∃ q ∈ e.queue, span.overlaps q.span = true ∧ span.contains q.span = false

theorem absorb_eq_self_iff {e : Edits} {region : ByteSpan} :
    e.absorb region = e ↔ ∀ q ∈ e.queue, isAbsorbedBy region q.span = false := by
  obtain ⟨queue⟩ := e
  simp [absorb]

/-- What a region overlaps and does not hold stays queued and is in its way.  What it holds is
dropped, but for an insertion at its end, which it does not overlap. -/
theorem conflict?_spares_eq_none_iff (c : Change) (e : Edits) :
    (c.spares e).conflict? c.extent = none ↔ ¬c.Blocked e := by
  constructor
  · intro hnone hblocked
    have hfree := conflict?_eq_none hnone
    cases c with
    | replacing span text =>
        obtain ⟨q, hq, hoverlaps, hother⟩ := hblocked
        exact absurd hoverlaps (ne_true_of_eq_false (hfree q hq hother))
    | region span text =>
        obtain ⟨q, hq, hoverlaps, houtside⟩ := hblocked
        have hleft : q ∈ (e.absorb span).queue :=
          List.mem_filter.2 ⟨hq, by simp [isAbsorbedBy, houtside]⟩
        have hother : q.span ≠ span := by
          intro hsame
          rw [hsame, contains_iff.2 ⟨Int.le_refl _, Int.le_refl _⟩] at houtside
          cases houtside
        exact absurd hoverlaps (ne_true_of_eq_false (hfree q hleft hother))
  · intro hclear
    cases c with
    | replacing span text =>
        refine conflict?_eq_none_of fun q hq hother => ?_
        by_contra hoverlaps
        exact hclear ⟨q, hq, Bool.eq_true_of_not_eq_false hoverlaps, hother⟩
    | region span text =>
        refine Encloses.conflict?_absorb fun q hq hoverlaps => ?_
        by_contra houtside
        exact hclear ⟨q, hq, hoverlaps, Bool.eq_false_of_not_eq_true houtside⟩

/-- A refused change has dropped what it would have taken the place of, and nothing else. -/
theorem change_error {s t : Source} {c : Change} {cause : Failure}
    (hrefused : s.change c = ⟨.error cause, t⟩) :
    c.Blocked s.edits ∧ cause.isConflict = true ∧ t = { s with edits := c.spares s.edits } := by
  rcases change_cases s c with ⟨-, hchange⟩ | ⟨existing, hconflict, hchange⟩
  · rw [hchange] at hrefused
    exact absurd hrefused Attempt.success_ne
  · rw [hchange] at hrefused
    obtain ⟨rfl, rfl⟩ := Attempt.failure_eq hrefused
    refine ⟨?_, rfl, rfl⟩
    by_contra hclear
    rw [(conflict?_spares_eq_none_iff c s.edits).2 hclear] at hconflict
    cases hconflict

theorem change_of_blocked {s : Source} {c : Change} (hblocked : c.Blocked s.edits) :
    ∃ cause t, s.change c = ⟨.error cause, t⟩ := by
  rcases change_cases s c with ⟨hnone, -⟩ | ⟨existing, -, hchange⟩
  · exact absurd hblocked ((conflict?_spares_eq_none_iff c s.edits).1 hnone)
  · exact ⟨_, _, hchange⟩

/-! ## Four kinds of requests -/

/-- What is asked of a file: a change of its text, or a new text for the reference at a place or for
its alias. -/
inductive Request where
  | change (c : Change)
  | reference (index : Nat) (name : Name)
  | importAlias (index : Nat) (name : Name)

/-- Ask for something. -/
def request (s : Source) : Request → Attempt Source Unit
  | .change c => s.change c
  | .reference index name => s.respellReference index name
  | .importAlias index name => s.respellAlias index name

/-- The change of the text that a request comes to.  There is none if there is no such reference, or
no span for its alias. -/
def Request.change? (s : Source) : Request → Option Change
  | .change c => some c
  | .reference index name => s.references[index]?.map fun site => .replacing site.span name
  | .importAlias index name =>
    (s.references[index]?.bind Reference.aliasSpan).map fun span => .replacing span name

/-- A request is refused if and only if the change of the text is, and with that change. -/
theorem request_error_iff {s t : Source} {r : Request} {cause : Failure} :
    s.request r = ⟨.error cause, t⟩ ↔
      ∃ c, r.change? s = some c ∧ s.change c = ⟨.error cause, t⟩ := by
  cases r with
  | change c => simp [request, Request.change?]
  | reference index name =>
      cases hsite : s.references[index]? with
      | none => simp [request, respellReference, Request.change?, hsite, Attempt.success]
      | some site =>
          simp only [request, respellReference, Request.change?, hsite, Option.map_some,
            Option.some.injEq, exists_eq_left']
          exact Attempt.andThen_success_error_iff
  | importAlias index name =>
      cases hspan : s.references[index]?.bind Reference.aliasSpan with
      | none => simp [request, respellAlias, Request.change?, hspan, Attempt.success]
      | some span =>
          simp only [request, respellAlias, Request.change?, hspan, Option.map_some,
            Option.some.injEq, exists_eq_left']
          exact Attempt.andThen_success_error_iff

/-- Only a region drops edits before it is put into the queue. -/
theorem spares_of_change? {s : Source} {r : Request} {c : Change} (hc : r.change? s = some c)
    (hr : ∀ span text, r ≠ .change (.region span text)) (e : Edits) : c.spares e = e := by
  cases r with
  | change change =>
      obtain rfl := Option.some.inj hc
      cases change with
      | replacing span text => rfl
      | region span text => exact absurd rfl (hr span text)
  | reference index name =>
      obtain ⟨site, -, rfl⟩ := Option.map_eq_some_iff.1 hc
      rfl
  | importAlias index name =>
      obtain ⟨span, -, rfl⟩ := Option.map_eq_some_iff.1 hc
      rfl

/-- A refused request that is not for a region changes nothing. -/
theorem request_error {s t : Source} {r : Request} {cause : Failure}
    (hr : ∀ span text, r ≠ .change (.region span text))
    (hrefused : s.request r = ⟨.error cause, t⟩) : t = s := by
  obtain ⟨c, hc, hchange⟩ := request_error_iff.1 hrefused
  obtain ⟨-, -, rfl⟩ := change_error hchange
  rw [spares_of_change? hc hr]

/-- **What a refused request leaves behind.**  A request is refused if and only if it comes to a
change with an edit in its way.  Then the references are as before, and a region has lost the queued
edits inside it.  So the file is as before unless a region was asked for with some edit inside
it. -/
theorem refused_request (s : Source) (r : Request) :
    ((s.request r).conflicts = true ↔ ∃ c, r.change? s = some c ∧ c.Blocked s.edits) ∧
    ((s.request r).conflicts = true →
      (s.request r).state.references = s.references ∧
      (∀ span text, r = .change (.region span text) →
        (s.request r).state = { s with edits := s.edits.absorb span }) ∧
      ((s.request r).state = s ↔ ∀ span text, r = .change (.region span text) →
        ∀ q ∈ s.edits.queue, isAbsorbedBy span q.span = false)) := by
  constructor
  · rw [Attempt.conflicts_iff]
    constructor
    · rintro ⟨cause, t, -, hrefused⟩
      obtain ⟨c, hc, hchange⟩ := request_error_iff.1 hrefused
      exact ⟨c, hc, (change_error hchange).1⟩
    · rintro ⟨c, hc, hblocked⟩
      obtain ⟨cause, t, hchange⟩ := change_of_blocked hblocked
      exact ⟨cause, t, (change_error hchange).2.1, request_error_iff.2 ⟨c, hc, hchange⟩⟩
  · intro hconflicts
    obtain ⟨cause, t, -, hrefused⟩ := Attempt.conflicts_iff.1 hconflicts
    rw [hrefused]
    -- Only a region drops edits, and it does so before it is refused.
    by_cases hr : ∀ span text, r ≠ .change (.region span text)
    · obtain rfl := request_error hr hrefused
      exact ⟨rfl, fun span text hregion => absurd hregion (hr span text),
        fun _ span text hregion => absurd hregion (hr span text), fun _ => rfl⟩
    · push Not at hr
      obtain ⟨span, text, rfl⟩ := hr
      have hchange : s.change (.region span text) = ⟨.error cause, t⟩ := hrefused
      obtain ⟨-, -, rfl⟩ := change_error hchange
      refine ⟨rfl, fun _ _ hregion => ?_, fun hsame _ _ hregion => ?_, fun hnone => ?_⟩
      · cases hregion
        rfl
      · cases hregion
        exact absorb_eq_self_iff.1 (congrArg edits hsame)
      · have hkept : s.edits.absorb span = s.edits := absorb_eq_self_iff.2 (hnone span text rfl)
        dsimp only [Change.spares]
        rw [hkept]

/-- Three letters replaced, and three more after the next one. -/
def overlapped : Source :=
  letters.changeAll [.replacing ⟨0, 3, by decide⟩ "X", .replacing ⟨4, 7, by decide⟩ "Y"]

/-- A region that holds the first edit and overlaps the second: it is refused, and the first edit is
lost nevertheless. -/
theorem refused_request_overlapped :
    (overlapped.request (.change (.region ⟨0, 5, by decide⟩ "Z"))).conflicts = true ∧
    (overlapped.request (.change (.region ⟨0, 5, by decide⟩ "Z"))).state ≠ overlapped ∧
    (overlapped.request (.change (.region ⟨0, 5, by decide⟩ "Z"))).state.edits.queue =
      [⟨⟨4, 7, by decide⟩, "Y"⟩] := by
  obtain ⟨hrefused, hleft⟩ :=
    refused_request overlapped (.change (.region ⟨0, 5, by decide⟩ "Z"))
  have hconflicts := hrefused.2 ⟨_, rfl, ⟨⟨4, 7, by decide⟩, "Y"⟩, by decide +kernel, by decide,
    by decide⟩
  obtain ⟨-, hregion, hsame⟩ := hleft hconflicts
  refine ⟨hconflicts, fun heq => ?_, ?_⟩
  · have hkept := hsame.1 heq _ _ rfl ⟨⟨0, 3, by decide⟩, "X"⟩ (by decide +kernel)
    exact absurd hkept (by decide)
  · rw [hregion _ _ rfl]
    decide +kernel

/-! ## One request after the other -/

/-- Ask for one thing after the other, until something is refused. -/
def requestAll (s : Source) : List Request → Attempt Source Unit
  | [] => .success () s
  | r :: rest => (s.request r).andThen fun _ s => s.requestAll rest

/-- What is asked for when the reference at a place is reworded. -/
def Rewording.requests (index : Nat) (w : Rewording) : List Request :=
  (w.name.map (Request.reference index)).toList ++
    (w.aliasName.map (Request.importAlias index)).toList

/-- What is asked for when the references from `index` on are reworded. -/
def requestsFrom (index : Nat) : List Rewording → List Request
  | [] => []
  | w :: rest => w.requests index ++ requestsFrom (index + 1) rest

theorem requestAll_append (s : Source) (first rest : List Request) :
    s.requestAll (first ++ rest) = (s.requestAll first).andThen fun _ t => t.requestAll rest := by
  induction first generalizing s with
  | nil => rfl
  | cons r first ih =>
      simp only [List.cons_append, requestAll, Attempt.andThen_assoc, ih]

/-- A reference is reworded by requests, and they are counted. -/
theorem reword_eq (s : Source) (index : Nat) (w : Rewording) :
    s.reword index w =
      (s.requestAll (w.requests index)).map fun _ => (w.requests index).length := by
  obtain ⟨name, aliasName⟩ := w
  cases name <;> cases aliasName <;>
    simp [reword, Rewording.requests, requestAll, request, Attempt.andThen_map,
      Attempt.map_andThen, Attempt.map_map, Attempt.map_success, Attempt.andThen_eq_map]

theorem rewordFrom_eq (s : Source) (index : Nat) (words : List Rewording) :
    s.rewordFrom index words =
      (s.requestAll (requestsFrom index words)).map fun _ => (requestsFrom index words).length := by
  induction words generalizing s index with
  | nil => rfl
  | cons w rest ih =>
      simp only [rewordFrom, requestsFrom, requestAll_append, reword_eq, ih, List.length_append,
        Attempt.andThen_map, Attempt.map_andThen, Attempt.map_map]

/-- Only a request of its own makes a region. -/
theorem ne_region_of_mem_requestsFrom {index : Nat} {words : List Rewording} {r : Request}
    (hr : r ∈ requestsFrom index words) (span : ByteSpan) (text : String) :
    r ≠ .change (.region span text) := by
  induction words generalizing index with
  | nil => simp [requestsFrom] at hr
  | cons w rest ih =>
      rcases List.mem_append.1 hr with hw | hrest
      · rintro rfl
        simp [Rewording.requests] at hw
      · exact ih hrest

/-- Requests stop at the first one that is refused. -/
theorem requestAll_error {s t : Source} {requests : List Request} {cause : Failure}
    (hfailed : s.requestAll requests = ⟨.error cause, t⟩) :
    ∃ done r rest u, requests = done ++ r :: rest ∧ s.requestAll done = ⟨.ok (), u⟩ ∧
      u.request r = ⟨.error cause, t⟩ := by
  induction requests generalizing s with
  | nil => exact absurd hfailed Attempt.success_ne
  | cons r rest ih =>
      rcases Attempt.andThen_error hfailed with hrefused | ⟨_, u, hserved, hlater⟩
      · exact ⟨[], r, rest, s, rfl, rfl, hrefused⟩
      · obtain ⟨done, r', rest', v, rfl, hdone, hrefused⟩ := ih hlater
        refine ⟨r :: done, r', rest', v, rfl, ?_, hrefused⟩
        simp only [requestAll, hserved, Attempt.andThen]
        exact hdone

/-- Rewording references stops at the first request that is refused, and leaves the file as it is
then. -/
theorem rewordFrom_error {s t : Source} {index : Nat} {words : List Rewording} {cause : Failure}
    (hfailed : s.rewordFrom index words = ⟨.error cause, t⟩) :
    ∃ done r rest, requestsFrom index words = done ++ r :: rest ∧
      s.requestAll done = ⟨.ok (), t⟩ ∧ t.request r = ⟨.error cause, t⟩ := by
  rw [rewordFrom_eq] at hfailed
  obtain ⟨done, r, rest, u, hrequests, hdone, hrefused⟩ :=
    requestAll_error (Attempt.map_error hfailed)
  have hr : r ∈ requestsFrom index words := by simp [hrequests]
  obtain rfl := request_error (ne_region_of_mem_requestsFrom hr) hrefused
  exact ⟨done, r, rest, hrequests, hdone, hrefused⟩

end Source

end Rechristen
