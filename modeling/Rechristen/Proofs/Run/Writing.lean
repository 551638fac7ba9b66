import Rechristen.Proofs.Edits.Splice
import Rechristen.Proofs.Text.Utf8
import Rechristen.Run

/-!
# What is written

A file with edits is rendered as a text and then written, so its bytes are read once more before
they are stored.  In Latin-1 nothing is lost by that.  In UTF-8 the spliced bytes are stored as they
are if and only if they are a written text; otherwise every stray stretch of them is replaced,
whether it lies in an edit or in a part of the file that no edit touches.

So a file keeps what is outside its edits if it was a written text and the edits are cut between
characters.  A file with bytes of another encoding in a comment does not keep them.
-/

namespace Rechristen

/-! ## Splices that are written texts -/

namespace Edits

theorem exists_splice {encoding : Encoding} {edits : List Edit}
    (hwritable : ∀ edit ∈ edits, (encoding.encode? edit.text).isSome) (content : Bytes)
    (position : Nat) : ∃ bytes, splice encoding content position edits = some bytes := by
  induction edits generalizing position with
  | nil => exact ⟨_, rfl⟩
  | cons edit rest ih =>
      obtain ⟨hedit, hrest⟩ := List.forall_mem_cons.1 hwritable
      obtain ⟨new, hnew⟩ := Option.isSome_iff_exists.1 hedit
      obtain ⟨later, hlater⟩ := ih hrest edit.span.stop.toNat
      exact ⟨_, by rw [splice, hnew, hlater]; rfl⟩

/-- The bytes of a written text between two offsets between its characters. -/
theorem isUtf8_between {content : Bytes} {start stop : Nat}
    (hstart : Text.IsUtf8 (content.take start)) (hstop : Text.IsUtf8 (content.take stop))
    (hle : start ≤ stop) : Text.IsUtf8 ((content.take stop).drop start) := by
  refine hstart.of_append ?_
  have htake : content.take start = (content.take stop).take start := by
    rw [List.take_take, Nat.min_eq_left hle]
  rw [htake, List.take_append_drop]
  exact hstop

/-- Edits that are cut between the characters of a written text leave a written text. -/
theorem isUtf8_splice {content spliced : Bytes} {edits : List Edit} {position : Nat}
    (hcontent : Text.IsUtf8 content) (hposition : Text.IsUtf8 (content.take position))
    (hsorted : edits.Pairwise fun a b => a.span.stop ≤ b.span.start)
    (hafter : ∀ edit ∈ edits, position ≤ edit.span.start)
    (hcut : ∀ edit ∈ edits, Text.IsUtf8 (content.take edit.span.start.toNat) ∧
      Text.IsUtf8 (content.take edit.span.stop.toNat))
    (hspliced : splice .utf8 content position edits = some spliced) : Text.IsUtf8 spliced := by
  induction edits generalizing position spliced with
  | nil =>
      obtain rfl := Option.some.inj hspliced
      refine hposition.of_append ?_
      rw [List.take_append_drop]
      exact hcontent
  | cons edit rest ih =>
      obtain ⟨hnext, hsorted⟩ := List.pairwise_cons.1 hsorted
      obtain ⟨hfirst, hafter⟩ := List.forall_mem_cons.1 hafter
      obtain ⟨⟨hstart, hstop⟩, hcut⟩ := List.forall_mem_cons.1 hcut
      have hordered := edit.span.ordered
      rw [splice] at hspliced
      cases hlater : splice .utf8 content edit.span.stop.toNat rest with
      | none =>
          rw [hlater] at hspliced
          cases hspliced
      | some later =>
          rw [hlater] at hspliced
          obtain rfl := Option.some.inj hspliced
          have hrest : Text.IsUtf8 later := by
            refine ih hstop hsorted (fun next hmem => ?_) hcut hlater
            have := hnext next hmem
            omega
          have hbefore := isUtf8_between hposition hstart (by omega)
          exact (hbefore.append ⟨edit.text, rfl⟩).append hrest

end Edits

/-! ## Writing a file -/

theorem Encoding.latin1_encode?_decode (bytes : Bytes) :
    Encoding.latin1.encode? (Encoding.latin1.decode bytes) = some bytes := by
  have hcode : ∀ b : UInt8, (Char.ofNat b.toNat).toNat = b.toNat := by
    intro b
    have hb := b.toNat_lt
    have hchar : b.toNat.isValidChar := Or.inl (by omega)
    rw [Char.ofNat, dif_pos hchar]
    rfl
  have hall : (bytes.map fun b => Char.ofNat b.toNat).all (fun c => c.toNat < 0x100) = true := by
    simp only [List.all_map, List.all_eq_true, Function.comp_apply, decide_eq_true_eq, hcode]
    intro b _
    exact b.toNat_lt
  have hback : ((bytes.map fun b => Char.ofNat b.toNat).map fun c => c.toNat.toUInt8) = bytes := by
    simp [List.map_map, Function.comp_def, hcode]
  simp only [Encoding.encode?, Encoding.decode, String.toList_ofList, hall, if_true, hback]

/-- Spliced bytes are read as a text that can be written.  What is written are the same bytes if and
only if they were a written text, or any bytes are one. -/
theorem Encoding.encode?_decode (encoding : Encoding) (spliced : Bytes) :
    ∃ stored, encoding.encode? (encoding.decode spliced) = some stored ∧
      (encoding = .utf8 → Text.Mends spliced stored) ∧
      (stored = spliced ↔ encoding = .latin1 ∨ Text.IsUtf8 spliced) := by
  cases encoding with
  | latin1 =>
      refine ⟨spliced, Encoding.latin1_encode?_decode spliced, fun hutf8 => ?_, ?_⟩
      · cases hutf8
      · simp
  | utf8 =>
      refine ⟨_, rfl, fun _ => Text.mends_decodeUtf8 spliced, ?_⟩
      rw [Encoding.decode, Text.encodeUtf8_decodeUtf8_iff]
      simp

namespace Source

theorem changeAll_path (s : Source) (changes : List Change) :
    (s.changeAll changes).path = s.path := by
  induction changes generalizing s with
  | nil => rfl
  | cons c rest ih =>
      refine (ih (s.change c).state).trans ?_
      rcases change_cases s c with ⟨-, hchange⟩ | ⟨existing, -, hchange⟩ <;> rw [hchange] <;> rfl

/-- **What is written of a file.**  Whatever changes are asked of a freshly read file, if they lie
inside it and can be written: the file is stored, and what is stored are the bytes of the file with
the edits spliced in, but for stray stretches of them, which are replaced.  So the bytes outside the
edits are kept if and only if the spliced bytes are a written text (or the encoding is one in which
all bytes are), and in particular if the file was a written text and the edits are cut between its
characters. -/
theorem writeAll_changeAll (s : Source) (hfresh : s.edits = {}) (changes : List Change)
    (hinside : ∀ c ∈ changes, 0 ≤ c.extent.start ∧ c.extent.stop ≤ s.content.length)
    (hwritable : ∀ edit ∈ (s.changeAll changes).edits.queue,
      (s.encoding.encode? edit.text).isSome) :
    ∃ spliced stored,
      Edits.splice s.encoding s.content 0
        (Edits.frontToBack (s.changeAll changes).edits.queue) = some spliced ∧
      (∀ tree rest, Run.writeAll tree (s.changeAll changes :: rest) =
        Run.writeAll (tree.write s.path stored) rest) ∧
      (s.encoding = .utf8 → Text.Mends spliced stored) ∧
      (stored = spliced ↔ s.encoding = .latin1 ∨ Text.IsUtf8 spliced) ∧
      (Text.IsUtf8 s.content →
        (∀ edit ∈ (s.changeAll changes).edits.queue,
          Text.IsUtf8 (s.content.take edit.span.start.toNat) ∧
            Text.IsUtf8 (s.content.take edit.span.stop.toNat)) →
        stored = spliced) := by
  have hapart : (s.changeAll changes).edits.Apart :=
    apart_changeAll (hfresh ▸ Edits.apart_empty) changes
  have hwithin : (s.changeAll changes).edits.Inside s.content.length :=
    inside_changeAll (by rw [hfresh]; exact fun _ h => absurd h List.not_mem_nil) hinside
  have hmem : ∀ edit ∈ Edits.frontToBack (s.changeAll changes).edits.queue,
      edit ∈ (s.changeAll changes).edits.queue := fun _ h => List.mem_mergeSort.1 h
  -- All texts can be written, so there are bytes to be stored; they are decoded and encoded once
  -- more on the way.
  obtain ⟨spliced, hspliced⟩ :=
    Edits.exists_splice (fun edit hedit => hwritable edit (hmem edit hedit)) s.content 0
  obtain ⟨stored, hstored, hmends, hkept⟩ := s.encoding.encode?_decode spliced
  obtain ⟨hcontent, hencoding⟩ := changeAll_reading s changes
  refine ⟨spliced, stored, hspliced, fun tree rest => ?_, hmends, hkept, fun hutf8 hcut => ?_⟩
  · have hrender : (s.changeAll changes).render = .ok (s.encoding.decode spliced) := by
      unfold render
      rw [hcontent, hencoding, hapart.render_eq_splice hwithin, hspliced]
    rw [Run.writeAll, hrender, hencoding]
    dsimp only
    rw [hstored, changeAll_path]
  · cases hcase : s.encoding with
    | latin1 => exact hkept.2 (Or.inl hcase)
    | utf8 =>
        rw [hcase] at hspliced
        refine hkept.2 (Or.inr (Edits.isUtf8_splice hutf8 ⟨"", rfl⟩ hapart.pairwise_frontToBack
          ?_ ?_ hspliced))
        · intro edit hedit
          simpa using (hwithin edit (hmem edit hedit)).1
        · intro edit hedit
          exact hcut edit (hmem edit hedit)

/-- A file with a letter of another encoding in a comment, and a name behind it. -/
def legacy : Source where
  path := .ofString "legacy"
  content := [0x2f, 0x2f, 0xe9, 0x0a, 0x41]

/-- The name is changed and the letter is lost: `[0x2f, 0x2f, 0xe9, 0x0a, 0x42]` is not stored. -/
theorem writeAll_changeAll_legacy :
    (∀ c ∈ [Change.replacing ⟨4, 5, by decide⟩ "B"],
      0 ≤ c.extent.start ∧ c.extent.stop ≤ legacy.content.length) ∧
    ∃ stored,
      (∀ tree rest,
        Run.writeAll tree (legacy.changeAll [.replacing ⟨4, 5, by decide⟩ "B"] :: rest) =
          Run.writeAll (tree.write legacy.path stored) rest) ∧
      Text.Mends [0x2f, 0x2f, 0xe9, 0x0a, 0x42] stored ∧
      stored ≠ [0x2f, 0x2f, 0xe9, 0x0a, 0x42] := by
  have hinside : ∀ c ∈ [Change.replacing ⟨4, 5, by decide⟩ "B"],
      0 ≤ c.extent.start ∧ c.extent.stop ≤ legacy.content.length := by
    decide +kernel
  have hwritable : ∀ edit ∈ (legacy.changeAll [.replacing ⟨4, 5, by decide⟩ "B"]).edits.queue,
      (legacy.encoding.encode? edit.text).isSome := by
    decide +kernel
  obtain ⟨spliced, stored, hspliced, hwrite, hmends, hkept, -⟩ :=
    writeAll_changeAll legacy rfl [.replacing ⟨4, 5, by decide⟩ "B"] hinside hwritable
  obtain rfl : spliced = [0x2f, 0x2f, 0xe9, 0x0a, 0x42] := by
    have hqueue : (legacy.changeAll [.replacing ⟨4, 5, by decide⟩ "B"]).edits.queue =
        [⟨⟨4, 5, by decide⟩, "B"⟩] := by
      decide +kernel
    rw [hqueue, Edits.frontToBack, List.mergeSort_singleton] at hspliced
    exact (Option.some.inj hspliced).symm
  refine ⟨hinside, stored, hwrite, hmends rfl, fun hsame => ?_⟩
  rcases hkept.1 hsame with hlatin | hutf8
  · cases hlatin
  · revert hutf8
    decide +kernel

end Source

end Rechristen
