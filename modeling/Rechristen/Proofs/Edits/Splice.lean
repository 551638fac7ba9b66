import Mathlib.Data.List.Permutation
import Mathlib.Data.List.Sort
import Rechristen.Proofs.Keyed
import Rechristen.Source

/-!
# Rendering is splicing

The queued edits of a file never overlap, whatever was asked of the file and whether or not it was
granted.  So their order in the file is total, each of them ends before the next one starts, and
applying them from the back of the file to its front gives what one walk from the front to the back
gives: the bytes between two edits as they are, and the text of each edit in place of its span.

The walk is `splice`.  The invariant of the queue is `Edits.Apart`; `Edits.Apart.put` and
`Edits.Apart.absorb` are its steps, and `Source.apart_changeAll` carries it through every run.
-/

namespace Rechristen

/-! ## Edits that keep apart -/

namespace Edits

/-- Every span is queued once, and no two of them overlap. -/
structure Apart (e : Edits) : Prop where
  distinct : (e.queue.map Edit.span).Nodup
  disjoint : ∀ a ∈ e.queue, ∀ b ∈ e.queue, a.span ≠ b.span → a.span.overlaps b.span = false

/-- Every edit lies in a file of this length. -/
def Inside (length : Nat) (e : Edits) : Prop :=
  ∀ edit ∈ e.queue, 0 ≤ edit.span.start ∧ edit.span.stop ≤ length

theorem apart_empty : Apart {} :=
  ⟨List.nodup_nil, fun _ ha => absurd ha List.not_mem_nil⟩

theorem overlaps_comm (a b : ByteSpan) : a.overlaps b = b.overlaps a := by
  unfold Span.overlaps
  exact Bool.and_comm _ _

/-- An edit that is granted overlaps nothing but an edit of its own span. -/
theorem conflict?_eq_none {e : Edits} {span : ByteSpan} (hnone : e.conflict? span = none) :
    ∀ q ∈ e.queue, q.span ≠ span → span.overlaps q.span = false := by
  intro q hq hother
  have hfree := List.find?_eq_none.1 (Option.map_eq_none_iff.1 hnone) q hq
  simpa [hother] using hfree

theorem queue_put (e : Edits) (edit : Edit) :
    (e.put edit).queue = Keyed.upsert Edit.span e.queue edit := by
  unfold put Keyed.upsert
  split <;> rfl

/-- What is queued after an edit was put into the queue. -/
theorem mem_put_iff {e : Edits} {edit q : Edit} :
    q ∈ (e.put edit).queue ↔ q = edit ∨ q ∈ e.queue ∧ q.span ≠ edit.span := by
  rw [queue_put]
  exact Keyed.mem_upsert_iff

theorem mem_put {e : Edits} {edit q : Edit} (hq : q ∈ (e.put edit).queue) :
    q = edit ∨ q ∈ e.queue ∧ q.span ≠ edit.span :=
  mem_put_iff.1 hq

theorem Apart.put {e : Edits} (hapart : e.Apart) {edit : Edit}
    (hnone : e.conflict? edit.span = none) : (e.put edit).Apart := by
  have hfree := conflict?_eq_none hnone
  refine ⟨?_, ?_⟩
  · rw [queue_put]
    exact Keyed.nodup_upsert hapart.distinct edit
  · intro a ha b hb hne
    -- Two new edits are one, and two old ones kept apart before.  What is new was granted, so it
    -- overlaps nothing old.
    rcases mem_put ha with hanew | ⟨haold, haother⟩ <;>
      rcases mem_put hb with hbnew | ⟨hbold, hbother⟩
    · exact absurd (by rw [hanew, hbnew]) hne
    · rw [hanew]
      exact hfree b hbold hbother
    · rw [hbnew, overlaps_comm]
      exact hfree a haold haother
    · exact hapart.disjoint a haold b hbold hne

/-- Dropping edits keeps the others apart. -/
theorem Apart.filter {e : Edits} (hapart : e.Apart) (p : Edit → Bool) :
    (⟨e.queue.filter p⟩ : Edits).Apart := by
  have hkept : (e.queue.filter p).Sublist e.queue := List.filter_sublist
  refine ⟨hapart.distinct.sublist (hkept.map Edit.span), ?_⟩
  intro a ha b hb
  exact hapart.disjoint a (hkept.subset ha) b (hkept.subset hb)

theorem Apart.absorb {e : Edits} (hapart : e.Apart) (region : ByteSpan) :
    (e.absorb region).Apart :=
  hapart.filter _

end Edits

/-! ## Runs of changes -/

namespace Source

/-- What is asked of a file: that a span be replaced, or a region with all edits inside it. -/
inductive Change where
  | replacing (span : ByteSpan) (text : String)
  | region (span : ByteSpan) (text : String)

/-- The bytes a change is about. -/
def Change.extent : Change → ByteSpan
  | .replacing span _ => span
  | .region span _ => span

/-- The text that is to go in its place. -/
def Change.text : Change → String
  | .replacing _ text => text
  | .region _ text => text

/-- Ask for one change. -/
def change (s : Source) : Change → Attempt Source Unit
  | .replacing span text => s.replace span text
  | .region span text => s.replaceRegion span text

/-- Ask for changes one after the other, and go on after one that is refused. -/
def changeAll (s : Source) (changes : List Change) : Source :=
  changes.foldl (fun s c => (s.change c).state) s

/-- What a change leaves of the edits it finds: a region takes those inside it away. -/
def Change.spares (c : Change) (e : Edits) : Edits :=
  match c with
  | .replacing _ _ => e
  | .region span _ => e.absorb span

/-- A change goes into the queue it spares or, if it overlaps something there, is refused. -/
theorem change_cases (s : Source) (c : Change) :
    ((c.spares s.edits).conflict? c.extent = none ∧
      s.change c = .success () { s with edits := (c.spares s.edits).put ⟨c.extent, c.text⟩ }) ∨
    ∃ existing, (c.spares s.edits).conflict? c.extent = some existing ∧
      s.change c = .failure (.editConflict s.path c.extent existing)
        { s with edits := c.spares s.edits } := by
  have hreplace : s.change c = { s with edits := c.spares s.edits }.replace c.extent c.text := by
    cases c <;> rfl
  rw [hreplace]
  unfold replace Edits.replace
  cases hconflict : (c.spares s.edits).conflict? c.extent with
  | none => exact Or.inl ⟨rfl, rfl⟩
  | some existing => exact Or.inr ⟨existing, rfl, rfl⟩

/-- The file as it was read and how it is read do not change. -/
theorem change_reading (s : Source) (c : Change) :
    (s.change c).state.content = s.content ∧ (s.change c).state.encoding = s.encoding := by
  rcases change_cases s c with ⟨-, hchange⟩ | ⟨existing, -, hchange⟩ <;>
    rw [hchange] <;> exact ⟨rfl, rfl⟩

theorem apart_change {s : Source} (hapart : s.edits.Apart) (c : Change) :
    (s.change c).state.edits.Apart := by
  have hspared : (c.spares s.edits).Apart := by
    cases c with
    | replacing span text => exact hapart
    | region span text => exact hapart.absorb span
  rcases change_cases s c with ⟨hnone, hchange⟩ | ⟨existing, -, hchange⟩
  · rw [hchange]
    exact hspared.put hnone
  · rw [hchange]
    exact hspared

/-- What holds of the spans that are queued and of the span that is asked for holds of the spans
that are queued afterwards. -/
theorem spans_change {p : ByteSpan → Prop} {s : Source} (hs : ∀ q ∈ s.edits.queue, p q.span)
    {c : Change} (hc : p c.extent) : ∀ q ∈ (s.change c).state.edits.queue, p q.span := by
  have hspared : ∀ q ∈ (c.spares s.edits).queue, p q.span := by
    cases c with
    | replacing span text => exact hs
    | region span text => exact fun q hq => hs q (List.mem_of_mem_filter hq)
  rcases change_cases s c with ⟨-, hchange⟩ | ⟨existing, -, hchange⟩
  · rw [hchange]
    intro q hq
    rcases Edits.mem_put hq with rfl | ⟨hq, -⟩
    · exact hc
    · exact hspared q hq
  · rw [hchange]
    exact hspared

theorem changeAll_reading (s : Source) (changes : List Change) :
    (s.changeAll changes).content = s.content ∧ (s.changeAll changes).encoding = s.encoding := by
  induction changes generalizing s with
  | nil => exact ⟨rfl, rfl⟩
  | cons c rest ih =>
      obtain ⟨hcontent, hencoding⟩ := ih (s.change c).state
      exact ⟨hcontent.trans (change_reading s c).1, hencoding.trans (change_reading s c).2⟩

theorem apart_changeAll {s : Source} (hapart : s.edits.Apart) (changes : List Change) :
    (s.changeAll changes).edits.Apart := by
  induction changes generalizing s with
  | nil => exact hapart
  | cons c rest ih => exact ih (apart_change hapart c)

theorem spans_changeAll {p : ByteSpan → Prop} {s : Source} (hs : ∀ q ∈ s.edits.queue, p q.span)
    {changes : List Change} (hchanges : ∀ c ∈ changes, p c.extent) :
    ∀ q ∈ (s.changeAll changes).edits.queue, p q.span := by
  induction changes generalizing s with
  | nil => exact hs
  | cons c rest ih =>
      obtain ⟨hc, hrest⟩ := List.forall_mem_cons.1 hchanges
      exact ih (spans_change hs hc) hrest

theorem inside_changeAll {length : Nat} {s : Source} (hinside : s.edits.Inside length)
    {changes : List Change}
    (hchanges : ∀ c ∈ changes, 0 ≤ c.extent.start ∧ c.extent.stop ≤ length) :
    (s.changeAll changes).edits.Inside length :=
  spans_changeAll (p := fun span => 0 ≤ span.start ∧ span.stop ≤ length) hinside hchanges

end Source

/-! ## From the front to the back -/

namespace Edits

/-- An edit comes before another: it starts before it, or with it and ends no later. -/
def precedes (a b : Edit) : Bool :=
  a.span.start < b.span.start || (a.span.start = b.span.start && a.span.stop ≤ b.span.stop)

/-- Edits from the front of the file to its back. -/
def frontToBack (edits : List Edit) : List Edit :=
  edits.mergeSort precedes

/-- The bytes from a position on with the edits made as they come: what lies before an edit is
copied, and its text goes in the place of its span. -/
def splice (encoding : Encoding) (content : Bytes) (position : Nat) : List Edit → Option Bytes
  | [] => some (content.drop position)
  | edit :: rest => do
    let new ← encoding.encode? edit.text
    let later ← splice encoding content edit.span.stop.toNat rest
    return (content.take edit.span.start.toNat).drop position ++ new ++ later

theorem precedes_iff (a b : Edit) :
    precedes a b = true ↔
      a.span.start < b.span.start ∨
        a.span.start = b.span.start ∧ a.span.stop ≤ b.span.stop := by
  simp [precedes]

theorem precedes_trans (a b c : Edit) (hab : precedes a b = true) (hbc : precedes b c = true) :
    precedes a c = true := by
  rw [precedes_iff] at *
  omega

theorem precedes_total (a b : Edit) : (precedes a b || precedes b a) = true := by
  rw [Bool.or_eq_true, precedes_iff, precedes_iff]
  omega

theorem span_eq_of_precedes {a b : Edit} (hab : precedes a b = true) (hba : precedes b a = true) :
    a.span = b.span := by
  rw [precedes_iff] at hab hba
  rcases hspan : a.span with ⟨start, stop, hordered⟩
  rcases hspan' : b.span with ⟨start', stop', hordered'⟩
  simp only [hspan, hspan'] at hab hba
  have hstart : start = start' := by omega
  have hstop : stop = stop' := by omega
  subst hstart hstop
  rfl

theorem backToFront_eq_mergeSort (edits : List Edit) :
    backToFront edits = edits.mergeSort fun a b => precedes b a := by
  unfold backToFront precedes
  congr
  funext a b
  by_cases hstart : a.span.start = b.span.start <;> simp [hstart, eq_comm]

/-- Edits of different spans have one order, whichever end it is read from. -/
theorem backToFront_eq_reverse {edits : List Edit} (hdistinct : (edits.map Edit.span).Nodup) :
    backToFront edits = (frontToBack edits).reverse := by
  rw [backToFront_eq_mergeSort]
  have hback : (edits.mergeSort fun a b => precedes b a).Pairwise fun a b => precedes b a = true :=
    List.pairwise_mergeSort (fun a b c hab hbc => precedes_trans c b a hbc hab)
      (fun a b => precedes_total b a) edits
  have hfront : (frontToBack edits).reverse.Pairwise fun a b => precedes b a = true :=
    List.pairwise_reverse.2 (List.pairwise_mergeSort precedes_trans precedes_total edits)
  have hperm : (edits.mergeSort fun a b => precedes b a).Perm (frontToBack edits).reverse :=
    (List.mergeSort_perm _ _).trans
      ((List.mergeSort_perm _ _).symm.trans (List.reverse_perm _).symm)
  -- Two sorted lists of the same edits are one list, since only equal edits are in both orders.
  refine hperm.eq_of_pairwise ?_ hback hfront
  intro a b ha hb hba hab
  have hmem : a ∈ edits := List.mem_mergeSort.1 ha
  have hmem' : b ∈ edits := List.mem_mergeSort.1 (List.mem_reverse.1 hb)
  exact List.inj_on_of_nodup_map hdistinct hmem hmem' (span_eq_of_precedes hab hba)

/-- Of two edits that keep apart the first ends before the second starts.  The delicate case is an
insertion at the start of the other: it is empty, so it comes first. -/
theorem stop_le_start {a b : Edit} (hprecedes : precedes a b = true)
    (hdisjoint : a.span.overlaps b.span = false) : a.span.stop ≤ b.span.start := by
  rw [precedes_iff] at hprecedes
  have hordered := b.span.ordered
  by_cases hbefore : a.span.start < b.span.stop
  · simpa [Span.overlaps, hbefore] using hdisjoint
  · omega

theorem Apart.pairwise_frontToBack {e : Edits} (hapart : e.Apart) :
    (frontToBack e.queue).Pairwise fun a b => a.span.stop ≤ b.span.start := by
  have hsorted : (frontToBack e.queue).Pairwise fun a b => precedes a b = true :=
    List.pairwise_mergeSort precedes_trans precedes_total e.queue
  have hspans : (frontToBack e.queue).Pairwise fun a b => a.span ≠ b.span := by
    have hperm : (frontToBack e.queue).Perm e.queue := List.mergeSort_perm _ _
    exact List.pairwise_map.1 ((hperm.map Edit.span).nodup_iff.2 hapart.distinct)
  refine (hsorted.and hspans).imp_of_mem ?_
  rintro a b ha hb ⟨hprecedes, hne⟩
  exact stop_le_start hprecedes
    (hapart.disjoint a (List.mem_mergeSort.1 ha) b (List.mem_mergeSort.1 hb) hne)

/-! ## Back to front and front to back agree -/

theorem applyAll_append (encoding : Encoding) (offset : Int) (bytes : Bytes)
    (first second : List Edit) :
    applyAll encoding offset bytes (first ++ second) =
      (applyAll encoding offset bytes first).bind fun bytes =>
        applyAll encoding offset bytes second := by
  induction first generalizing bytes with
  | nil => rfl
  | cons edit rest ih =>
      simp only [List.cons_append, applyAll]
      cases encoding.encode? edit.text with
      | none => rfl
      | some new => exact ih _

/-- Only what precedes an edit and what follows it is seen when it is applied. -/
theorem substitute_take_append (content later new : Bytes) {span : ByteSpan}
    (hstart : 0 ≤ span.start) (hstop : span.stop ≤ content.length) :
    substitute 0 (content.take span.stop.toNat ++ later) span new =
      content.take span.start.toNat ++ new ++ later := by
  have hordered := span.ordered
  have hlength : (content.take span.stop.toNat).length = span.stop.toNat := by
    rw [List.length_take]
    omega
  have hbefore : Offset.before (span.start - 0) (content.take span.stop.toNat ++ later) =
      content.take span.start.toNat := by
    unfold Offset.before Offset.index
    rw [if_neg (by omega), Int.sub_zero, List.take_append_of_le_length (by omega), List.take_take]
    congr 1
    omega
  have hafter : Offset.onward (span.stop - 0) (content.take span.stop.toNat ++ later) = later := by
    unfold Offset.onward Offset.index
    rw [if_neg (by omega), Int.sub_zero, List.drop_append_of_le_length (by omega),
      List.drop_of_length_le (by omega), List.nil_append]
  unfold substitute
  rw [hbefore, hafter]

/-- The induction goes from the front edit on: once the later edits are applied, the bytes up to
the end of the front edit are still those of the file. -/
theorem applyAll_reverse (encoding : Encoding) (content : Bytes) (position : Nat)
    (edits : List Edit)
    (hsorted : edits.Pairwise fun a b => a.span.stop ≤ b.span.start)
    (hposition : ∀ edit ∈ edits, position ≤ edit.span.start)
    (hinside : ∀ edit ∈ edits, edit.span.stop ≤ content.length) :
    applyAll encoding 0 content edits.reverse =
      (splice encoding content position edits).map (content.take position ++ ·) := by
  induction edits generalizing position with
  | nil => simp [applyAll, splice]
  | cons edit rest ih =>
      obtain ⟨hfirst, hrest⟩ := List.pairwise_cons.1 hsorted
      obtain ⟨hstart, -⟩ := List.forall_mem_cons.1 hposition
      obtain ⟨hstop, hinside⟩ := List.forall_mem_cons.1 hinside
      have hordered := edit.span.ordered
      have hlater := ih edit.span.stop.toNat hrest
        (fun next hnext => by have := hfirst next hnext; omega) hinside
      have hcopied : content.take position ++ (content.take edit.span.start.toNat).drop position =
          content.take edit.span.start.toNat := by
        have htake : content.take position =
            (content.take edit.span.start.toNat).take position := by
          rw [List.take_take]
          congr 1
          omega
        rw [htake, List.take_append_drop]
      rw [List.reverse_cons, applyAll_append, hlater, splice]
      cases splice encoding content edit.span.stop.toNat rest with
      | none => cases encoding.encode? edit.text <;> rfl
      | some later =>
          cases hnew : encoding.encode? edit.text with
          | none => simp [applyAll, hnew]
          | some new =>
              have hmade := substitute_take_append content later new
                (show 0 ≤ edit.span.start by omega) hstop
              have hsplit : content.take position ++
                  ((content.take edit.span.start.toNat).drop position ++ new ++ later) =
                  content.take edit.span.start.toNat ++ new ++ later := by
                rw [← List.append_assoc, ← List.append_assoc, hcopied]
              simp only [applyAll, hnew, Option.map_some, Option.bind_some, hmade,
                Option.bind_eq_bind, Option.pure_def, hsplit]

theorem Apart.render_eq_splice {e : Edits} (hapart : e.Apart) {content : Bytes}
    (hinside : e.Inside content.length) (encoding : Encoding) :
    e.render encoding content = splice encoding content 0 (frontToBack e.queue) := by
  have hmem : ∀ edit ∈ frontToBack e.queue, edit ∈ e.queue := fun _ h => List.mem_mergeSort.1 h
  unfold render
  rw [backToFront_eq_reverse hapart.distinct,
    applyAll_reverse encoding content 0 _ hapart.pairwise_frontToBack
      (fun edit hedit => by simpa using (hinside edit (hmem edit hedit)).1)
      (fun edit hedit => (hinside edit (hmem edit hedit)).2)]
  simp

end Edits

namespace Source

/-- Whatever changes are asked of a freshly read file, granted or refused: the queued edits are of
different spans that do not overlap, and the file is rendered by splicing them into its content from
the front to the back.  Only a text that the encoding cannot write keeps it from being rendered. -/
theorem render_changeAll (s : Source) (hfresh : s.edits = {}) (changes : List Change)
    (hinside : ∀ c ∈ changes, 0 ≤ c.extent.start ∧ c.extent.stop ≤ s.content.length) :
    ((s.changeAll changes).edits.queue.Pairwise fun a b =>
        a.span ≠ b.span ∧ a.span.overlaps b.span = false) ∧
      (s.changeAll changes).render =
        match Edits.splice s.encoding s.content 0
            (Edits.frontToBack (s.changeAll changes).edits.queue) with
        | some bytes => .ok (s.encoding.decode bytes)
        | none => .error .unwritable := by
  have hapart : (s.changeAll changes).edits.Apart :=
    apart_changeAll (hfresh ▸ Edits.apart_empty) changes
  have hwithin : (s.changeAll changes).edits.Inside s.content.length :=
    inside_changeAll (by rw [hfresh]; exact fun _ h => absurd h List.not_mem_nil) hinside
  obtain ⟨hcontent, hencoding⟩ := changeAll_reading s changes
  refine ⟨?_, ?_⟩
  · have hspans : (s.changeAll changes).edits.queue.Pairwise fun a b => a.span ≠ b.span :=
      List.pairwise_map.1 hapart.distinct
    refine hspans.imp_of_mem ?_
    intro a b ha hb hne
    exact ⟨hne, hapart.disjoint a ha b hb hne⟩
  · unfold render
    rewrite [hcontent, hencoding, hapart.render_eq_splice hwithin]
    rfl

/-- Eight letters, and changes of all kinds: insertions at both ends of a replaced span, a span that
overlaps another, a region that takes an edit with it, and one that does so and is refused. -/
def letters : Source where
  path := .ofString "letters"
  content := Text.encodeUtf8 "abcdefgh"

def letterChanges : List Change :=
  [.replacing ⟨2, 4, by decide⟩ "X", .replacing (.point 2) "<", .replacing (.point 4) ">",
    .replacing ⟨3, 5, by decide⟩ "-", .replacing ⟨0, 1, by decide⟩ "A",
    .region ⟨0, 2, by decide⟩ "Z", .replacing ⟨5, 7, by decide⟩ "Y",
    .replacing ⟨7, 8, by decide⟩ "W", .region ⟨6, 8, by decide⟩ "V"]

theorem render_changeAll_letters :
    (∀ c ∈ letterChanges, 0 ≤ c.extent.start ∧ c.extent.stop ≤ letters.content.length) ∧
      ((letters.changeAll letterChanges).edits.queue.Pairwise fun a b =>
        a.span ≠ b.span ∧ a.span.overlaps b.span = false) ∧
      (letters.changeAll letterChanges).render = .ok "Z<X>eYh" := by
  have hinside : ∀ c ∈ letterChanges,
      0 ≤ c.extent.start ∧ c.extent.stop ≤ letters.content.length := by
    decide +kernel
  obtain ⟨hapart, hrender⟩ := render_changeAll letters rfl letterChanges hinside
  have hqueue : (letters.changeAll letterChanges).edits.queue =
      [⟨⟨2, 4, by decide⟩, "X"⟩, ⟨.point 2, "<"⟩, ⟨.point 4, ">"⟩, ⟨⟨0, 2, by decide⟩, "Z"⟩,
        ⟨⟨5, 7, by decide⟩, "Y"⟩] := by
    decide +kernel
  have hsorted : Edits.frontToBack (letters.changeAll letterChanges).edits.queue =
      [⟨⟨0, 2, by decide⟩, "Z"⟩, ⟨.point 2, "<"⟩, ⟨⟨2, 4, by decide⟩, "X"⟩, ⟨.point 4, ">"⟩,
        ⟨⟨5, 7, by decide⟩, "Y"⟩] := by
    rw [hqueue]
    unfold Edits.frontToBack
    cbv
  rw [hsorted] at hrender
  refine ⟨hinside, hapart, hrender.trans ?_⟩
  rfl

end Source

end Rechristen
