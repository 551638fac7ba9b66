import Mathlib.Data.List.TakeDrop
import Rechristen.Proofs.Edits.Conflicts
import Rechristen.Proofs.Edits.Ranges

/-!
# Absorbing a region

A region of a file is rewritten in two steps.  It is rendered with the edits inside it, and then it
is replaced as a whole by a text made of that, while the edits inside it are dropped.  Two tests say
which edits those are: `isWithin` when the region is rendered and `isAbsorbedBy` when it is
replaced.  They differ at one span only, that of an insertion into an empty region.  The insertion
counts when the region is rendered; it is not dropped, but gives way to the new edit of its own
span.

If every edit that overlaps a region lies in it, the text of the file falls into three parts, each
with edits of its own: what comes before the region, the region, and what comes after it
(`fullText_eq_append`).  A region that is replaced by what is rendered of it leaves all three as
they were (`Source.render_replaceRegion_renderRange`).
-/

namespace Rechristen

namespace Edits

theorem isAbsorbedBy_iff {region span : ByteSpan} :
    isAbsorbedBy region span = true ↔
      region.contains span = true ∧ span ≠ Span.point region.stop := by
  simp [isAbsorbedBy]

theorem isWithin_iff {range span : ByteSpan} :
    isWithin range span = true ↔ range.contains span = true ∧
      (span = Span.point range.stop → range.start = range.stop) := by
  simp [isWithin, Span.isEmpty, Decidable.imp_iff_not_or]

/-- What begins where it ends or behind that is an insertion. -/
theorem eq_point {span : ByteSpan} {offset : Int} (hstart : offset ≤ span.start)
    (hstop : span.stop ≤ offset) : span = Span.point offset := by
  obtain ⟨start, stop, hordered⟩ := span
  unfold Span.point
  rw [Span.mk.injEq]
  dsimp only at hstart hstop
  omega

/-- What is not empty is no insertion. -/
theorem ne_point {span : ByteSpan} (hfilled : span.start < span.stop) (offset : Int) :
    span ≠ Span.point offset := by
  rintro rfl
  exact absurd hfilled (Int.lt_irrefl offset)

theorem isWithin_self (region : ByteSpan) : isWithin region region = true := by
  refine isWithin_iff.2 ⟨contains_iff.2 ⟨Int.le_refl _, Int.le_refl _⟩, fun hpoint => ?_⟩
  rw [hpoint]
  rfl

/-- What is dropped with a region is rendered with it.  What else is rendered has its span. -/
theorem isWithin_iff_isAbsorbedBy {region span : ByteSpan} :
    isWithin region span = true ↔ isAbsorbedBy region span = true ∨ span = region := by
  constructor
  · intro hwithin
    obtain ⟨hcontains, hempty⟩ := isWithin_iff.1 hwithin
    by_cases hpoint : span = Span.point region.stop
    · have hstart := hempty hpoint
      have hregion : region = Span.point region.stop := eq_point (by omega) (by omega)
      exact Or.inr (hpoint.trans hregion.symm)
    · exact Or.inl (isAbsorbedBy_iff.2 ⟨hcontains, hpoint⟩)
  · rintro (habsorbed | rfl)
    · obtain ⟨hcontains, hpoint⟩ := isAbsorbedBy_iff.1 habsorbed
      exact isWithin_iff.2 ⟨hcontains, fun h => absurd h hpoint⟩
    · exact isWithin_self _

/-! ## The queue after a region was replaced -/

/-- An edit that does not count leaves those that do, if spans tell which ones do. -/
theorem filter_put (e : Edits) {edit : Edit} {p : ByteSpan → Bool} (hp : p edit.span = false) :
    ((e.put edit).queue.filter fun q => p q.span) = e.queue.filter fun q => p q.span := by
  unfold put
  split
  case isFalse => simp [hp]
  -- An edit that takes the place of another has its span, so neither of them counts.
  case isTrue =>
    have hsame : (fun q => p q.span) ∘ (fun q => if q.span = edit.span then edit else q) =
        fun q : Edit => p q.span := by
      funext q
      by_cases hspan : q.span = edit.span <;> simp [hspan]
    rw [List.filter_map, hsame]
    refine (List.map_congr_left fun q hq => ?_).trans (List.map_id _)
    have hother : q.span ≠ edit.span := by
      intro hspan
      rw [List.mem_filter, hspan, hp] at hq
      exact absurd hq.2 Bool.false_ne_true
    exact if_neg hother

/-- What lies in a span that is replaced as a whole is gone, and an edit of the span comes last. -/
theorem put_absorb (e : Edits) {span : ByteSpan} (hfilled : span.start < span.stop)
    (text : String) :
    ((e.absorb span).put ⟨span, text⟩).queue =
      (e.queue.filter fun q => !isAbsorbedBy span q.span) ++ [⟨span, text⟩] := by
  have hself : isAbsorbedBy span span = true :=
    isAbsorbedBy_iff.2 ⟨contains_iff.2 (by omega), ne_point hfilled _⟩
  unfold put
  rw [if_neg]
  · rfl
  · intro hany
    obtain ⟨q, hq, hsame⟩ := List.any_eq_true.1 hany
    have hleft := (List.mem_filter.1 hq).2
    rw [of_decide_eq_true hsame, hself] at hleft
    cases hleft

/-- Outside of a region nothing changes when it is replaced, whichever edits are asked for. -/
theorem filter_put_absorb (e : Edits) (region : ByteSpan) (text : String) (p : ByteSpan → Bool) :
    (((e.absorb region).put ⟨region, text⟩).queue.filter fun q =>
        !isWithin region q.span && p q.span) =
      e.queue.filter fun q => !isWithin region q.span && p q.span := by
  refine (filter_put _ (p := fun span => !isWithin region span && p span) ?_).trans ?_
  · simp [isWithin_self]
  · rw [absorb, List.filter_filter]
    refine List.filter_congr fun q _ => ?_
    cases hwithin : isWithin region q.span with
    | true => simp
    | false =>
        have hleft : isAbsorbedBy region q.span = false := by
          by_contra habsorbed
          rw [isWithin_iff_isAbsorbedBy.2 (Or.inl (Bool.eq_true_of_not_eq_false habsorbed))]
            at hwithin
          cases hwithin
        simp [hleft]

/-- A region that was replaced holds one edit, its own. -/
theorem Apart.filter_within_put_absorb {e : Edits} {region : ByteSpan} {text : String}
    (hapart : ((e.absorb region).put ⟨region, text⟩).Apart) :
    (((e.absorb region).put ⟨region, text⟩).queue.filter fun q => isWithin region q.span) =
      [⟨region, text⟩] := by
  have hnodup : (((e.absorb region).put ⟨region, text⟩).queue.filter
      fun q => isWithin region q.span).Nodup :=
    (List.Nodup.of_map _ hapart.distinct).filter _
  refine List.perm_singleton.1 ((List.perm_ext_iff_of_nodup hnodup (List.nodup_singleton _)).2 ?_)
  intro q
  rw [List.mem_filter, List.mem_singleton]
  constructor
  · rintro ⟨hq, hwithin⟩
    rcases mem_put hq with rfl | ⟨hq, hother⟩
    · rfl
    · have hleft := (List.mem_filter.1 hq).2
      rcases isWithin_iff_isAbsorbedBy.1 hwithin with habsorbed | hspan
      · simp [habsorbed] at hleft
      · exact absurd hspan hother
  · rintro rfl
    exact ⟨mem_put_iff.2 (Or.inl rfl), isWithin_self region⟩

/-! ## Before a region, in it and after it -/

/-- Every queued edit that overlaps the region lies in it. -/
def Encloses (region : ByteSpan) (edits : List Edit) : Prop :=
  ∀ q ∈ edits, region.overlaps q.span = true → region.contains q.span = true

/-- The edits that end before a region begins. -/
def ahead (region : ByteSpan) (edits : List Edit) : List Edit :=
  edits.filter fun q => !isWithin region q.span && decide (q.span.stop ≤ region.start)

/-- The edits that begin after a region ends. -/
def behind (region : ByteSpan) (edits : List Edit) : List Edit :=
  edits.filter fun q => !isWithin region q.span && decide (region.stop ≤ q.span.start)

/-- What is not rendered with a region lies on one side of it.  An insertion at its end lies behind
it. -/
theorem behind_iff_not_ahead {region span : ByteSpan}
    (hencloses : region.overlaps span = true → region.contains span = true)
    (houtside : isWithin region span = false) :
    region.stop ≤ span.start ↔ ¬span.stop ≤ region.start := by
  have hordered := span.ordered
  have hordered' := region.ordered
  constructor
  · -- Both at once would make two insertions at the same place of them.
    intro hbehind hahead
    have hspan : span = Span.point region.stop := eq_point hbehind (by omega)
    have hwithin : isWithin region span = true :=
      isWithin_iff.2 ⟨contains_iff.2 (by omega), fun _ => by omega⟩
    rw [houtside] at hwithin
    cases hwithin
  · intro hahead
    cases hoverlaps : region.overlaps span with
    | false => exact (overlaps_eq_false_iff.1 hoverlaps).resolve_left hahead
    | true =>
        have hpoint : span = Span.point region.stop := by
          by_contra hother
          have hwithin : isWithin region span = true :=
            isWithin_iff.2 ⟨hencloses hoverlaps, fun hpoint => absurd hpoint hother⟩
          rw [houtside] at hwithin
          cases hwithin
        rw [hpoint]
        exact Int.le_refl _

/-- An edit that ends before another begins comes first. -/
theorem precedes_of_stop_le {a b : Edit} (hle : a.span.stop ≤ b.span.start) :
    precedes a b = true := by
  have := a.span.ordered
  have := b.span.ordered
  rw [precedes_iff]
  omega

theorem Encloses.perm {region : ByteSpan} {edits : List Edit} (hencloses : Encloses region edits) :
    edits.Perm (ahead region edits ++
      ((edits.filter fun q => isWithin region q.span) ++ behind region edits)) := by
  have hahead : ahead region edits = (edits.filter fun q => !isWithin region q.span).filter
      fun q => decide (q.span.stop ≤ region.start) := by
    rw [List.filter_filter]
    exact List.filter_congr fun q _ => Bool.and_comm _ _
  have hbehind : behind region edits = (edits.filter fun q => !isWithin region q.span).filter
      fun q => !decide (q.span.stop ≤ region.start) := by
    rw [List.filter_filter]
    refine List.filter_congr fun q hq => ?_
    -- An edit outside of the region lies behind it exactly if it does not lie ahead of it.
    cases hwithin : isWithin region q.span with
    | true => simp
    | false =>
        have hside := behind_iff_not_ahead (hencloses q hq) hwithin
        simp only [decide_eq_decide.2 hside, decide_not, Bool.and_comm]
  calc List.Perm edits ((edits.filter fun q => isWithin region q.span) ++
          edits.filter fun q => !isWithin region q.span) :=
        (List.filter_append_perm _ _).symm
    List.Perm _ ((edits.filter fun q => isWithin region q.span) ++
          (ahead region edits ++ behind region edits)) := by
        rw [hahead, hbehind]
        exact (List.filter_append_perm _ _).symm.append_left _
    List.Perm _ (ahead region edits ++
          ((edits.filter fun q => isWithin region q.span) ++ behind region edits)) := by
        rw [← List.append_assoc, ← List.append_assoc]
        exact List.perm_append_comm.append_right _

theorem mem_ahead {region : ByteSpan} {edits : List Edit} {q : Edit}
    (hq : q ∈ frontToBack (ahead region edits)) : q ∈ edits ∧ q.span.stop ≤ region.start := by
  obtain ⟨hmem, hq⟩ := List.mem_filter.1 (List.mem_mergeSort.1 hq)
  exact ⟨hmem, of_decide_eq_true (Bool.and_eq_true_iff.1 hq).2⟩

theorem mem_behind {region : ByteSpan} {edits : List Edit} {q : Edit}
    (hq : q ∈ frontToBack (behind region edits)) : q ∈ edits ∧ region.stop ≤ q.span.start := by
  obtain ⟨hmem, hq⟩ := List.mem_filter.1 (List.mem_mergeSort.1 hq)
  exact ⟨hmem, of_decide_eq_true (Bool.and_eq_true_iff.1 hq).2⟩

/-- From the front to the back the edits before a region come first, and those after it last. -/
theorem Encloses.frontToBack_eq_append {region : ByteSpan} {edits : List Edit}
    (hencloses : Encloses region edits) (hdistinct : (edits.map Edit.span).Nodup) :
    frontToBack edits = frontToBack (ahead region edits) ++
      (frontToBack (edits.filter fun q => isWithin region q.span) ++
        frontToBack (behind region edits)) := by
  have hsorted (edits : List Edit) :
      (frontToBack edits).Pairwise fun a b => precedes a b = true :=
    List.pairwise_mergeSort precedes_trans precedes_total edits
  have hordered := region.ordered
  refine frontToBack_eq (hencloses.perm.trans ?_) hdistinct ?_
  · exact ((List.mergeSort_perm _ _).append
      ((List.mergeSort_perm _ _).append (List.mergeSort_perm _ _))).symm
  · refine List.pairwise_append.2 ⟨hsorted _, List.pairwise_append.2 ⟨hsorted _, hsorted _, ?_⟩, ?_⟩
    · intro a ha b hb
      exact precedes_of_stop_le ((mem_within ha).2.2.trans (mem_behind hb).2)
    · intro a ha b hb
      refine precedes_of_stop_le ((mem_ahead ha).2.trans ?_)
      rcases List.mem_append.1 hb with hb | hb
      · exact (mem_within hb).2.1
      · exact hordered.trans (mem_behind hb).2

/-! ## The text of the file in three parts -/

theorem drop_eq_append {α : Type} (xs : List α) {position cut : Nat} (hle : position ≤ cut) :
    xs.drop position = (xs.take cut).drop position ++ xs.drop cut := by
  rw [List.drop_take]
  obtain ⟨k, rfl⟩ := Nat.exists_eq_add_of_le hle
  rw [Nat.add_sub_cancel_left, List.drop_take_append_drop]

/-- Up to the first edit the text is copied, and it may be cut there at any character. -/
theorem spliceText_skip {content : Bytes} {edits : List Edit} {position cut : Nat}
    (hle : position ≤ cut) (hposition : Text.IsUtf8 (content.take position))
    (hcut : Text.IsUtf8 (content.take cut))
    (hafter : ∀ edit ∈ edits, (cut : Int) ≤ edit.span.start) :
    spliceText content position edits =
      Text.decodeUtf8 ((content.take cut).drop position) ++ spliceText content cut edits := by
  have hbetween := isUtf8_between hposition hcut hle
  cases edits with
  | nil => rw [spliceText, spliceText, drop_eq_append content hle, Text.decodeUtf8_append hbetween]
  | cons edit rest =>
      have hfirst := hafter edit List.mem_cons_self
      have htake : (content.take edit.span.start.toNat).take cut = content.take cut := by
        rw [List.take_take, Nat.min_eq_left (by omega)]
      rw [spliceText, spliceText, drop_eq_append _ hle, htake, Text.decodeUtf8_append hbetween]
      simp only [String.append_assoc]

/-- A text with edits is cut at a character between two of them. -/
theorem spliceText_append {content : Bytes} {first last : List Edit} {position cut : Nat}
    (hle : position ≤ cut) (hposition : Text.IsUtf8 (content.take position))
    (hcut : Text.IsUtf8 (content.take cut))
    (hsorted : first.Pairwise fun a b => a.span.stop ≤ b.span.start)
    (hfirst : ∀ edit ∈ first, (position : Int) ≤ edit.span.start ∧ edit.span.stop ≤ cut ∧
      Cuts content edit.span)
    (hlast : ∀ edit ∈ last, (cut : Int) ≤ edit.span.start) :
    spliceText content position (first ++ last) =
      spliceText (content.take cut) position first ++ spliceText content cut last := by
  induction first generalizing position with
  | nil => exact spliceText_skip hle hposition hcut hlast
  | cons edit rest ih =>
      obtain ⟨hnext, hsorted⟩ := List.pairwise_cons.1 hsorted
      obtain ⟨⟨hstart, hstop, hedit⟩, hrest⟩ := List.forall_mem_cons.1 hfirst
      have hordered := edit.span.ordered
      -- The edit ends before the cut, so what is copied up to it is the same with or without the
      -- cut.
      have htake : (content.take cut).take edit.span.start.toNat =
          content.take edit.span.start.toNat := by
        rw [List.take_take, Nat.min_eq_left (by omega)]
      have hlater := @ih edit.span.stop.toNat (by omega) hedit.stop hsorted
        fun next hmem => by
          have := hnext next hmem
          exact ⟨by omega, (hrest next hmem).2⟩
      rw [List.cons_append, spliceText, spliceText, hlater, htake]
      simp only [String.append_assoc]

/-- A file with a region that encloses its edits is the text before the region, the text of the
region and the text after it. -/
theorem Apart.fullText_eq_append {e : Edits} (hapart : e.Apart) {content : Bytes}
    (hcut : ∀ q ∈ e.queue, Cuts content q.span) {region : ByteSpan} (hregion : Cuts content region)
    (hencloses : Encloses region e.queue) :
    fullText content e.queue =
      spliceText (content.take region.start.toNat) 0 (frontToBack (ahead region e.queue)) ++
        (rangeText content region e.queue ++
          spliceText content region.stop.toNat (frontToBack (behind region e.queue))) := by
  have hnonneg := hregion.start_nonneg
  have hordered := region.ordered
  have hahead : (frontToBack (ahead region e.queue)).Pairwise fun a b =>
      a.span.stop ≤ b.span.start := (hapart.filter _).pairwise_frontToBack
  have hwithin : (frontToBack (e.queue.filter fun q => isWithin region q.span)).Pairwise
      fun a b => a.span.stop ≤ b.span.start := (hapart.filter _).pairwise_frontToBack
  unfold fullText rangeText
  rw [hencloses.frontToBack_eq_append hapart.distinct,
    spliceText_append (Nat.zero_le _) ⟨"", rfl⟩ hregion.start hahead,
    spliceText_append (by omega) hregion.start hregion.stop hwithin]
  · intro q hq
    obtain ⟨hmem, hstart, hstop⟩ := mem_within hq
    exact ⟨by omega, by omega, hcut q hmem⟩
  · intro q hq
    have := (mem_behind hq).2
    omega
  · intro q hq
    obtain ⟨hmem, hstop⟩ := mem_ahead hq
    have hq := hcut q hmem
    have := hq.start_nonneg
    exact ⟨by omega, by omega, hq⟩
  · intro q hq
    rcases List.mem_append.1 hq with hq | hq
    · have := (mem_within hq).2.1
      omega
    · have := (mem_behind hq).2
      omega

/-- A region whose only edit is its own has the text of that edit. -/
theorem rangeText_of_own {content : Bytes} {region : ByteSpan} {text : String} {edits : List Edit}
    (hown : (edits.filter fun q => isWithin region q.span) = [⟨region, text⟩]) :
    rangeText content region edits = text := by
  have hnone (bytes : Bytes) (cut : Nat) : Text.decodeUtf8 ((bytes.take cut).drop cut) = "" := by
    rw [List.drop_eq_nil_of_le (List.length_take_le cut bytes)]
    rfl
  unfold rangeText frontToBack
  rw [hown, List.mergeSort_singleton, spliceText, spliceText, hnone, hnone, String.append_empty,
    String.empty_append]

/-- Replacing a region by its text leaves the text of the file as it was. -/
theorem Apart.fullText_put_absorb {e : Edits} (hapart : e.Apart) {content : Bytes}
    (hcut : ∀ q ∈ e.queue, Cuts content q.span) {region : ByteSpan} (hregion : Cuts content region)
    (hencloses : Encloses region e.queue)
    (hafter : ((e.absorb region).put ⟨region, rangeText content region e.queue⟩).Apart) :
    fullText content
        ((e.absorb region).put ⟨region, rangeText content region e.queue⟩).queue =
      fullText content e.queue := by
  have hqueue : ∀ q ∈ ((e.absorb region).put ⟨region, rangeText content region e.queue⟩).queue,
      q.span = region ∨ q ∈ e.queue := by
    intro q hq
    rcases mem_put hq with rfl | ⟨hq, -⟩
    · exact Or.inl rfl
    · exact Or.inr (List.mem_of_mem_filter hq)
  have hcut' : ∀ q ∈ ((e.absorb region).put ⟨region, rangeText content region e.queue⟩).queue,
      Cuts content q.span := by
    intro q hq
    rcases hqueue q hq with hspan | hq
    · rwa [hspan]
    · exact hcut q hq
  have hencloses' : Encloses region
      ((e.absorb region).put ⟨region, rangeText content region e.queue⟩).queue := by
    intro q hq hoverlaps
    rcases hqueue q hq with hspan | hq
    · rw [hspan]
      exact contains_iff.2 ⟨Int.le_refl _, Int.le_refl _⟩
    · exact hencloses q hq hoverlaps
  -- Both texts fall into three parts.  The outer ones have the same edits, and the edit in the
  -- middle has the text that is rendered there.
  rw [hafter.fullText_eq_append hcut' hregion hencloses',
    hapart.fullText_eq_append hcut hregion hencloses,
    rangeText_of_own hafter.filter_within_put_absorb]
  unfold ahead behind
  rw [filter_put_absorb _ _ _ fun span => decide (span.stop ≤ region.start),
    filter_put_absorb _ _ _ fun span => decide (region.stop ≤ span.start)]

/-- A region that encloses its edits is replaced without a conflict. -/
theorem Encloses.conflict?_absorb {e : Edits} {region : ByteSpan}
    (hencloses : Encloses region e.queue) : (e.absorb region).conflict? region = none := by
  refine conflict?_eq_none_of fun q hq _ => ?_
  obtain ⟨hq, hleft⟩ := List.mem_filter.1 hq
  by_contra hoverlaps
  have hcontains := hencloses q hq (Bool.eq_true_of_not_eq_false hoverlaps)
  -- What is enclosed was dropped, but for an insertion at the end of the region.
  have hpoint : q.span = Span.point region.stop := by simpa [isAbsorbedBy, hcontains] using hleft
  rw [hpoint] at hoverlaps
  exact hoverlaps (overlaps_point_stop region)

end Edits

namespace Source

open Edits

/-- **Absorbing a region keeps the file.**  Whatever changes were asked for, at any characters of a
UTF-8 file and granted or refused: a region can be rendered and replaced by what was rendered if
every queued edit that overlaps it lies in it.  The region then has one edit, its own, and the file
is rendered as before. -/
theorem render_replaceRegion_renderRange (s : Source) (hfresh : s.edits = {})
    (hencoding : s.encoding = .utf8) (hcontent : Text.IsUtf8 s.content) (changes : List Change)
    (hchanges : ∀ c ∈ changes, Cuts s.content c.extent) (region : ByteSpan)
    (hregion : Cuts s.content region)
    (hencloses : ∀ q ∈ (s.changeAll changes).edits.queue,
      region.overlaps q.span = true → region.contains q.span = true) :
    ∃ text after file,
      (s.changeAll changes).renderRange region = .ok text ∧
      (s.changeAll changes).replaceRegion region text = .success () after ∧
      (after.edits.queue.filter fun q => isWithin region q.span) = [⟨region, text⟩] ∧
      (s.changeAll changes).render = .ok file ∧ after.render = .ok file := by
  obtain ⟨hsame, hread⟩ := changeAll_reading s changes
  have hapart : (s.changeAll changes).edits.Apart :=
    apart_changeAll (hfresh ▸ apart_empty) changes
  have hcut : ∀ q ∈ (s.changeAll changes).edits.queue, Cuts s.content q.span :=
    spans_changeAll (by simp [hfresh]) hchanges
  generalize s.changeAll changes = t at *
  rw [← hsame] at hcontent hregion hcut
  rw [← hread] at hencoding
  have hnone : (t.edits.absorb region).conflict? region = none :=
    Encloses.conflict?_absorb hencloses
  generalize htext : rangeText t.content region t.edits.queue = text
  have hafter : ((t.edits.absorb region).put ⟨region, text⟩).Apart :=
    (hapart.absorb region).put hnone
  have hcut' : ∀ q ∈ ((t.edits.absorb region).put ⟨region, text⟩).queue,
      Cuts t.content q.span := by
    intro q hq
    rcases mem_put hq with rfl | ⟨hq, -⟩
    · exact hregion
    · exact hcut q (List.mem_of_mem_filter hq)
  refine ⟨text, { t with edits := (t.edits.absorb region).put ⟨region, text⟩ },
    fullText t.content t.edits.queue, ?_, ?_, hafter.filter_within_put_absorb,
    render_eq_fullText hencoding hcontent hapart hcut, ?_⟩
  · rw [renderRange_eq_rangeText hencoding hapart hcut hregion, htext]
  · unfold replaceRegion replace Edits.replace
    rw [hnone]
  · rw [render_eq_fullText (s := { t with edits := (t.edits.absorb region).put ⟨region, text⟩ })
      hencoding hcontent hafter hcut']
    subst htext
    exact congrArg Except.ok (hapart.fullText_put_absorb hcut hregion hencloses hafter)

/-- A file with a character of two bytes, and edits of it that touch: an insertion before the
character, the character replaced, an insertion after the next letter, and an edit further on. -/
def sharp : Source where
  path := .ofString "sharp"
  content := Text.encodeUtf8 "aßb(c)"

def sharpChanges : List Change :=
  [.replacing ⟨1, 3, by decide⟩ "ss", .replacing (.point 1) "<", .replacing (.point 4) ">",
    .replacing ⟨5, 6, by decide⟩ "d"]

/-- A region with insertions at both its ends, and the empty region where the last of them is. -/
theorem render_replaceRegion_renderRange_sharp :
    (∃ text after, (sharp.changeAll sharpChanges).renderRange ⟨1, 4, by decide⟩ = .ok text ∧
      (sharp.changeAll sharpChanges).replaceRegion ⟨1, 4, by decide⟩ text = .success () after ∧
      after.render = (sharp.changeAll sharpChanges).render) ∧
    ∃ text after, (sharp.changeAll sharpChanges).renderRange (.point 4) = .ok text ∧
      (sharp.changeAll sharpChanges).replaceRegion (.point 4) text = .success () after ∧
      after.render = (sharp.changeAll sharpChanges).render := by
  have hcontent : Text.IsUtf8 sharp.content := ⟨"aßb(c)", rfl⟩
  have hchanges : ∀ c ∈ sharpChanges, Cuts sharp.content c.extent := by decide +kernel
  obtain ⟨text, after, file, hrange, hreplace, -, hbefore, hafter⟩ :=
    render_replaceRegion_renderRange sharp rfl rfl hcontent sharpChanges hchanges
      ⟨1, 4, by decide⟩ (by decide +kernel) (by decide +kernel)
  obtain ⟨text', after', file', hrange', hreplace', -, hbefore', hafter'⟩ :=
    render_replaceRegion_renderRange sharp rfl rfl hcontent sharpChanges hchanges
      (.point 4) (by decide +kernel) (by decide +kernel)
  exact ⟨⟨text, after, hrange, hreplace, hafter.trans hbefore.symm⟩,
    text', after', hrange', hreplace', hafter'.trans hbefore'.symm⟩

end Source

end Rechristen
