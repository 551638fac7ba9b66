import Rechristen.Proofs.Edits.Splice
import Rechristen.Proofs.Run.Writing

/-!
# The text of a range

The edits inside a range are applied to the bytes of the range alone.  That gives what splicing them
into the file gives, cut off at both ends of the range (`Apart.renderRange_eq_splice`).

In a file that is a written text, edits between its characters can be spliced into the text itself
(`spliceText`).  Which edits those are is all that matters, and not in which order they were queued
(`rangeText_perm`).
-/

namespace Rechristen

namespace Edits

/-! ## Applying edits to a part of a file -/

theorem index_of_nonneg {length : Nat} {offset : Int} (hoffset : 0 ≤ offset) :
    Offset.index length offset = offset.toNat :=
  if_neg (by omega)

/-- An edit behind an offset is the same edit of what lies behind the offset. -/
theorem substitute_drop (new : Bytes) {bytes : Bytes} {span : ByteSpan} {offset : Nat}
    (hoffset : offset ≤ bytes.length) (hspan : (offset : Int) ≤ span.start) :
    substitute offset (bytes.drop offset) span new = (substitute 0 bytes span new).drop offset ∧
      offset ≤ (substitute 0 bytes span new).length := by
  have hordered := span.ordered
  have hlength : offset ≤ (bytes.take span.start.toNat).length := by
    rw [List.length_take]
    omega
  unfold substitute Offset.before Offset.onward
  rw [index_of_nonneg (by omega), index_of_nonneg (by omega), index_of_nonneg (by omega),
    index_of_nonneg (by omega), Int.sub_zero, Int.sub_zero]
  constructor
  · rw [List.append_assoc, List.append_assoc, List.drop_append_of_le_length hlength,
      List.drop_take, List.drop_drop]
    congr 2
    · omega
    · congr 2
      omega
  · simp only [List.length_append]
    omega

theorem applyAll_drop (encoding : Encoding) {bytes : Bytes} {edits : List Edit} {offset : Nat}
    (hoffset : offset ≤ bytes.length) (hedits : ∀ edit ∈ edits, (offset : Int) ≤ edit.span.start) :
    applyAll encoding offset (bytes.drop offset) edits =
      (applyAll encoding 0 bytes edits).map (·.drop offset) := by
  induction edits generalizing bytes with
  | nil => rfl
  | cons edit rest ih =>
      obtain ⟨hedit, hrest⟩ := List.forall_mem_cons.1 hedits
      rw [applyAll, applyAll]
      cases encoding.encode? edit.text with
      | none => rfl
      | some new =>
          obtain ⟨hdrop, hlength⟩ := substitute_drop new hoffset hedit
          dsimp only
          rw [hdrop, ih hlength hrest]

/-- The edits that are made in a range lie between its ends. -/
theorem mem_within {edits : List Edit} {range : ByteSpan} {edit : Edit}
    (hedit : edit ∈ frontToBack (edits.filter fun q => isWithin range q.span)) :
    edit ∈ edits ∧ range.start ≤ edit.span.start ∧ edit.span.stop ≤ range.stop := by
  obtain ⟨hmem, hwithin⟩ := List.mem_filter.1 (List.mem_mergeSort.1 hedit)
  simp only [isWithin, Span.contains, Bool.and_eq_true, decide_eq_true_eq] at hwithin
  exact ⟨hmem, hwithin.1⟩

/-- The bytes of a range with the edits inside it, as a splice that ends where the range ends. -/
theorem Apart.renderRange_eq_splice {e : Edits} (hapart : e.Apart) (encoding : Encoding)
    {content : Bytes} {range : ByteSpan} (hstart : 0 ≤ range.start)
    (hstop : range.stop ≤ content.length) :
    e.renderRange encoding content range =
      splice encoding (content.take range.stop.toNat) range.start.toNat
        (frontToBack (e.queue.filter fun q => isWithin range q.span)) := by
  have hordered := range.ordered
  have hwithin : (⟨e.queue.filter fun q => isWithin range q.span⟩ : Edits).Apart := hapart.filter _
  have hlength : (content.take range.stop.toNat).length = range.stop.toNat := by
    rw [List.length_take]
    omega
  have hslice : range.slice content =
      (content.take range.stop.toNat).drop range.start.toNat := by
    unfold Span.slice Offset.between Offset.before
    rw [index_of_nonneg hstart, index_of_nonneg (by omega)]
  have hoffset : range.start = (range.start.toNat : Int) := by omega
  unfold renderRange
  rw [hslice, backToFront_eq_reverse hwithin.distinct, hoffset, Int.toNat_natCast]
  generalize hedits : frontToBack (e.queue.filter fun q => isWithin range q.span) = edits
  have hinside : ∀ edit ∈ edits, range.start ≤ edit.span.start ∧ edit.span.stop ≤ range.stop := by
    intro edit hedit
    rw [← hedits] at hedit
    exact (mem_within hedit).2
  -- A splice from the start of the range on leaves out what comes before it.
  have hback : ∀ bytes : Bytes, ((content.take range.stop.toNat).take range.start.toNat ++
      bytes).drop range.start.toNat = bytes := by
    intro bytes
    refine List.drop_left' ?_
    rw [List.length_take]
    omega
  calc applyAll encoding range.start.toNat
        ((content.take range.stop.toNat).drop range.start.toNat) edits.reverse
      = (applyAll encoding 0 (content.take range.stop.toNat) edits.reverse).map
          (·.drop range.start.toNat) := by
        refine applyAll_drop encoding (by omega) fun edit hedit => ?_
        have := hinside edit (List.mem_reverse.1 hedit)
        omega
    _ = ((splice encoding (content.take range.stop.toNat) range.start.toNat edits).map
          ((content.take range.stop.toNat).take range.start.toNat ++ ·)).map
          (·.drop range.start.toNat) := by
        rw [applyAll_reverse encoding (content.take range.stop.toNat) range.start.toNat edits
          (hedits ▸ hwithin.pairwise_frontToBack)]
        · intro edit hedit
          have := hinside edit hedit
          omega
        · intro edit hedit
          have := hinside edit hedit
          omega
    _ = splice encoding (content.take range.stop.toNat) range.start.toNat edits := by
        rw [Option.map_map]
        cases splice encoding (content.take range.stop.toNat) range.start.toNat edits with
        | none => rfl
        | some bytes => exact congrArg some (hback bytes)

/-! ## Splicing texts -/

/-- The text from a position on with the edits made as they come. -/
def spliceText (content : Bytes) (position : Nat) : List Edit → String
  | [] => Text.decodeUtf8 (content.drop position)
  | edit :: rest =>
    Text.decodeUtf8 ((content.take edit.span.start.toNat).drop position) ++ edit.text ++
      spliceText content edit.span.stop.toNat rest

/-- The text of a range with the edits inside it made. -/
def rangeText (content : Bytes) (range : ByteSpan) (edits : List Edit) : String :=
  spliceText (content.take range.stop.toNat) range.start.toNat
    (frontToBack (edits.filter fun q => isWithin range q.span))

/-- The text of a file with edits made. -/
def fullText (content : Bytes) (edits : List Edit) : String :=
  spliceText content 0 (frontToBack edits)

/-- The span is cut between characters of the file. -/
structure Cuts (content : Bytes) (span : ByteSpan) : Prop where
  start_nonneg : 0 ≤ span.start
  stop_le : span.stop ≤ content.length
  start : Text.IsUtf8 (content.take span.start.toNat)
  stop : Text.IsUtf8 (content.take span.stop.toNat)

instance (content : Bytes) (span : ByteSpan) : Decidable (Cuts content span) :=
  decidable_of_iff
    (0 ≤ span.start ∧ span.stop ≤ content.length ∧
      Text.IsUtf8 (content.take span.start.toNat) ∧ Text.IsUtf8 (content.take span.stop.toNat))
    ⟨fun h => ⟨h.1, h.2.1, h.2.2.1, h.2.2.2⟩, fun h => ⟨h.1, h.2, h.3, h.4⟩⟩

/-- A span that is cut between characters of a file is so in what is left of the file up to an
offset behind it. -/
theorem Cuts.take {content : Bytes} {span : ByteSpan} (hcuts : Cuts content span) {stop : Nat}
    (hstop : span.stop ≤ stop) (hlength : stop ≤ content.length) :
    Cuts (content.take stop) span := by
  have hordered := span.ordered
  have htake {offset : Nat} (hoffset : offset ≤ stop) :
      (content.take stop).take offset = content.take offset := by
    rw [List.take_take, Nat.min_eq_left hoffset]
  refine ⟨hcuts.start_nonneg, ?_, ?_, ?_⟩
  · rwa [List.length_take, Nat.min_eq_left hlength]
  · rw [htake (by omega)]
    exact hcuts.start
  · rw [htake (by omega)]
    exact hcuts.stop

/-- Bytes between two characters are those of their text. -/
theorem encodeUtf8_between {content : Bytes} {start stop : Nat}
    (hstart : Text.IsUtf8 (content.take start)) (hstop : Text.IsUtf8 (content.take stop))
    (hle : start ≤ stop) :
    Text.encodeUtf8 (Text.decodeUtf8 ((content.take stop).drop start)) =
      (content.take stop).drop start :=
  Text.encodeUtf8_decodeUtf8_iff.2 (isUtf8_between hstart hstop hle)

/-- Splicing edits between characters into the bytes of a text splices them into the text. -/
theorem splice_eq_spliceText {content : Bytes} {edits : List Edit} {position : Nat}
    (hcontent : Text.IsUtf8 content) (hposition : Text.IsUtf8 (content.take position))
    (hsorted : edits.Pairwise fun a b => a.span.stop ≤ b.span.start)
    (hafter : ∀ edit ∈ edits, (position : Int) ≤ edit.span.start)
    (hcut : ∀ edit ∈ edits, Cuts content edit.span) :
    splice .utf8 content position edits =
      some (Text.encodeUtf8 (spliceText content position edits)) := by
  induction edits generalizing position with
  | nil =>
      have hrest : Text.IsUtf8 (content.drop position) := by
        refine hposition.of_append ?_
        rwa [List.take_append_drop]
      rw [splice, spliceText, Text.encodeUtf8_decodeUtf8_iff.2 hrest]
  | cons edit rest ih =>
      obtain ⟨hnext, hsorted⟩ := List.pairwise_cons.1 hsorted
      obtain ⟨hfirst, -⟩ := List.forall_mem_cons.1 hafter
      obtain ⟨hedit, hcut⟩ := List.forall_mem_cons.1 hcut
      have hordered := edit.span.ordered
      have hlater := ih hedit.stop hsorted (fun next hmem => by
        have := hnext next hmem
        have := hedit.start_nonneg
        omega) hcut
      rw [splice, spliceText, hlater, Text.encodeUtf8_append, Text.encodeUtf8_append,
        encodeUtf8_between hposition hedit.start (by omega)]
      rfl

/-- Edits of different spans have one order, however they were queued. -/
theorem frontToBack_eq {edits sorted : List Edit} (hperm : edits.Perm sorted)
    (hdistinct : (edits.map Edit.span).Nodup)
    (hsorted : sorted.Pairwise fun a b => precedes a b = true) : frontToBack edits = sorted := by
  have hfront : (frontToBack edits).Pairwise fun a b => precedes a b = true :=
    List.pairwise_mergeSort precedes_trans precedes_total edits
  have hmerged : (frontToBack edits).Perm sorted := (List.mergeSort_perm _ _).trans hperm
  refine hmerged.eq_of_pairwise ?_ hfront hsorted
  intro x y hx hy hxy hyx
  have hmem : x ∈ edits := List.mem_mergeSort.1 hx
  have hmem' : y ∈ edits := hperm.mem_iff.2 hy
  exact List.inj_on_of_nodup_map hdistinct hmem hmem' (span_eq_of_precedes hxy hyx)

theorem frontToBack_perm {a b : List Edit} (hperm : a.Perm b)
    (hdistinct : (a.map Edit.span).Nodup) : frontToBack a = frontToBack b :=
  frontToBack_eq (hperm.trans (List.mergeSort_perm _ _).symm) hdistinct
    (List.pairwise_mergeSort precedes_trans precedes_total b)

theorem fullText_perm {content : Bytes} {a b : List Edit} (hperm : a.Perm b)
    (hdistinct : (a.map Edit.span).Nodup) : fullText content a = fullText content b := by
  unfold fullText
  rw [frontToBack_perm hperm hdistinct]

/-- The text of a range is told by the edits inside it. -/
theorem rangeText_perm {content : Bytes} {range : ByteSpan} {a b : List Edit}
    (hperm : (a.filter fun q => isWithin range q.span).Perm
      (b.filter fun q => isWithin range q.span))
    (hdistinct : (a.map Edit.span).Nodup) :
    rangeText content range a = rangeText content range b := by
  have hfiltered : ((a.filter fun q => isWithin range q.span).map Edit.span).Nodup :=
    hdistinct.sublist (List.filter_sublist.map _)
  unfold rangeText
  rw [frontToBack_perm hperm hfiltered]

end Edits

namespace Source

open Edits

variable {s : Source}

/-- A file with edits between its characters is rendered as a text. -/
theorem render_eq_fullText (hencoding : s.encoding = .utf8) (hcontent : Text.IsUtf8 s.content)
    (hapart : s.edits.Apart) (hcut : ∀ q ∈ s.edits.queue, Cuts s.content q.span) :
    s.render = .ok (fullText s.content s.edits.queue) := by
  have hmem : ∀ q ∈ frontToBack s.edits.queue, Cuts s.content q.span := by
    intro q hq
    exact hcut q (List.mem_mergeSort.1 hq)
  have hsplice : splice .utf8 s.content 0 (frontToBack s.edits.queue) =
      some (Text.encodeUtf8 (fullText s.content s.edits.queue)) :=
    splice_eq_spliceText hcontent ⟨"", rfl⟩ hapart.pairwise_frontToBack
      (fun q hq => (hmem q hq).start_nonneg) hmem
  have hinside : s.edits.Inside s.content.length :=
    fun q hq => ⟨(hcut q hq).start_nonneg, (hcut q hq).stop_le⟩
  unfold render
  rw [hencoding, hapart.render_eq_splice hinside, hsplice]
  exact congrArg Except.ok (Text.decodeUtf8_encodeUtf8 _)

/-- A range of such a file is rendered as a text. -/
theorem renderRange_eq_rangeText (hencoding : s.encoding = .utf8)
    (hapart : s.edits.Apart) (hcut : ∀ q ∈ s.edits.queue, Cuts s.content q.span)
    {range : ByteSpan} (hrange : Cuts s.content range) :
    s.renderRange range = .ok (rangeText s.content range s.edits.queue) := by
  have hordered := range.ordered
  have hstart := hrange.start_nonneg
  have hstop := hrange.stop_le
  have hwithin : (⟨s.edits.queue.filter fun q => isWithin range q.span⟩ : Edits).Apart :=
    hapart.filter _
  have hsplice : splice .utf8 (s.content.take range.stop.toNat) range.start.toNat
      (frontToBack (s.edits.queue.filter fun q => isWithin range q.span)) =
        some (Text.encodeUtf8 (rangeText s.content range s.edits.queue)) := by
    refine splice_eq_spliceText hrange.stop (hrange.take (by omega) (by omega)).start
      hwithin.pairwise_frontToBack ?_ ?_
    · intro q hq
      obtain ⟨-, hafter, -⟩ := mem_within hq
      omega
    · intro q hq
      obtain ⟨hmem, -, hbefore⟩ := mem_within hq
      exact (hcut q hmem).take (by omega) (by omega)
  unfold renderRange
  rw [hencoding, hapart.renderRange_eq_splice .utf8 hrange.start_nonneg hrange.stop_le, hsplice]
  exact congrArg Except.ok (Text.decodeUtf8_encodeUtf8 _)

end Source

end Rechristen
