import Rechristen.Proofs.Edits.Absorption
import Rechristen.Proofs.Pass.Conflicts

/-!
# Laying arguments out, recursively

Argument lists are laid out from the shortest to the longest, through the queue of edits: each list
takes over the edits inside it, those of the lists inside it among them.  What comes of it can be
said without the queue.  A list is laid out with one argument on each line, and the text of an
argument has in it the edits that are queued there and the lists that are laid out there, each in
its own turn (`laid`).

After some lists are laid out, the queue holds the edits outside of them and the outermost of them
(`changes`).  That is the invariant of the run (`Stage`): a list keeps it in its turn
(`stage_layOut`), and so do all lists from the shortest to the longest (`stage_layOutAll`).
-/

namespace Rechristen.ArgumentLayout

open Edits

/-! ## What should come of it -/

/-- The calls whose lists are to be laid out. -/
def lists (style : Style) (s : Source) : List Call :=
  s.calls.filter (isEligible style)

/-- The list of a call has that of another one inside it. -/
def surrounds (c d : Call) : Bool :=
  c.span.contains d.span && decide (d.span ≠ c.span)

/-- Those of some calls whose lists lie in no other. -/
def outermost (calls : List Call) : List Call :=
  calls.filter fun d => !calls.any fun c => surrounds c d

/-- The queued edits that lie in the lists of none of some calls. -/
def untouched (s : Source) (calls : List Call) : List Edit :=
  s.edits.queue.filter fun q => !calls.any fun c => isAbsorbedBy c.span q.span

/-- A text one level deeper. -/
def deeper (style : Style) (text : String) : String :=
  String.ofList (text.toList.flatMap fun c => if c = '\n' then '\n' :: style.indent.toList else [c])

theorem length_of_surrounds {c d : Call} (hcd : surrounds c d = true) :
    d.span.length < c.span.length := by
  obtain ⟨hcontains, hne⟩ := Bool.and_eq_true_iff.1 hcd
  by_contra hlength
  exact of_decide_eq_true hne (eq_of_contains hcontains (by omega)).symm

/-- The list of a call laid out: one argument on each line, with the edits and the lists that are in
it. -/
def laid (style : Style) (s : Source) (c : Call) : String :=
  let inner := (lists style s).filter (surrounds c)
  let made := untouched s inner ++
    (outermost inner).attach.map fun d => ⟨d.1.span, laid style s d.1⟩
  let texts := c.arguments.map fun a => rangeText s.content a.span made
  "(\n" ++
    ",\n".intercalate (texts.map fun text => c.lineIndent ++ style.indent ++ deeper style text) ++
    "\n" ++ c.lineIndent ++ ")"
termination_by c.span.length
decreasing_by
  exact length_of_surrounds (List.mem_filter.1 (List.mem_filter.1 d.2).1).2

/-- What is to be changed in a file when the lists of some calls are laid out: what is queued
outside of them, and the outermost of them. -/
def changes (style : Style) (s : Source) (calls : List Call) : List Edit :=
  untouched s calls ++ (outermost calls).map fun c => ⟨c.span, laid style s c⟩

theorem deeper_eq (style : Style) (text : String) :
    deeper style text = Text.replaceChar '\n' ("\n" ++ style.indent) text := by
  unfold deeper Text.replaceChar
  rw [String.toList_append]
  rfl

theorem laid_eq (style : Style) (s : Source) (c : Call) :
    laid style s c = layout style c (c.arguments.map fun a =>
      rangeText s.content a.span (changes style s ((lists style s).filter (surrounds c)))) := by
  have hattach : ((outermost ((lists style s).filter (surrounds c))).attach.map fun d =>
      (⟨d.1.span, laid style s d.1⟩ : Edit)) =
        (outermost ((lists style s).filter (surrounds c))).map fun d =>
          ⟨d.span, laid style s d⟩ :=
    @List.attach_map_val Call Edit _ fun d => ⟨d.span, laid style s d⟩
  rw [laid]
  unfold layout lineOf changes
  simp only [hattach, deeper_eq]

/-! ## Files that can be laid out -/

/-- An edit lies in an argument, and is no insertion at its end. -/
def Holds (a : Argument) (q : Edit) : Prop :=
  a.span.contains q.span = true ∧ q.span ≠ Span.point a.span.stop

/-- The list of a call can be laid out.  It is not empty, and it and its arguments are cut between
characters.  An edit lies in it or does not overlap it.  What lies in it lies in one of its
arguments; an insertion at its very end may also come behind all of them. -/
structure TidyList (style : Style) (s : Source) (c : Call) : Prop where
  filled : c.span.start < c.span.stop
  cut : Cuts s.content c.span
  arguments : ∀ a ∈ c.arguments, Cuts s.content a.span ∧ c.span.contains a.span = true
  whole : ∀ q ∈ s.edits.queue, c.span.contains q.span = true ∨ c.span.overlaps q.span = false
  held : ∀ q ∈ s.edits.queue, c.span.contains q.span = true →
    (∃ a ∈ c.arguments, Holds a q) ∨
      q.span = Span.point c.span.stop ∧ ∀ a ∈ c.arguments, a.span.start < c.span.stop
  nested : ∀ d ∈ lists style s, surrounds c d = true →
    ∃ a ∈ c.arguments, a.span.contains d.span = true

instance (a : Argument) (q : Edit) : Decidable (Holds a q) :=
  inferInstanceAs (Decidable (_ ∧ _))

instance (style : Style) (s : Source) (c : Call) : Decidable (TidyList style s c) :=
  decidable_of_iff
    (c.span.start < c.span.stop ∧ Cuts s.content c.span ∧
      (∀ a ∈ c.arguments, Cuts s.content a.span ∧ c.span.contains a.span = true) ∧
      (∀ q ∈ s.edits.queue, c.span.contains q.span = true ∨ c.span.overlaps q.span = false) ∧
      (∀ q ∈ s.edits.queue, c.span.contains q.span = true →
        (∃ a ∈ c.arguments, Holds a q) ∨
          q.span = Span.point c.span.stop ∧ ∀ a ∈ c.arguments, a.span.start < c.span.stop) ∧
      ∀ d ∈ lists style s, surrounds c d = true → ∃ a ∈ c.arguments, a.span.contains d.span = true)
    ⟨fun h => ⟨h.1, h.2.1, h.2.2.1, h.2.2.2.1, h.2.2.2.2.1, h.2.2.2.2.2⟩,
      fun h => ⟨h.1, h.2, h.3, h.4, h.5, h.6⟩⟩

/-- Of two lists one lies in the other, or they do not overlap. -/
def Nest (c d : Call) : Prop :=
  surrounds c d = true ∨ surrounds d c = true ∨ c.span.overlaps d.span = false

instance (c d : Call) : Decidable (Nest c d) :=
  inferInstanceAs (Decidable (_ ∨ _ ∨ _))

/-- The lists of a file can be laid out: the file is a text, edits are queued between its characters
and apart from each other, and its lists nest. -/
structure Tidy (style : Style) (s : Source) : Prop where
  encoding : s.encoding = .utf8
  content : Text.IsUtf8 s.content
  apart : s.edits.Apart
  queued : ∀ q ∈ s.edits.queue, Cuts s.content q.span
  nest : (lists style s).Pairwise Nest
  list : ∀ c ∈ lists style s, TidyList style s c

theorem any_filter_of_imp {α : Type} {xs : List α} {p f : α → Bool}
    (himp : ∀ x ∈ xs, f x = true → p x = true) : (xs.filter p).any f = xs.any f := by
  rw [List.any_filter, Bool.eq_iff_iff, List.any_eq_true, List.any_eq_true]
  refine exists_congr fun x => and_congr_right fun hx => ?_
  rw [Bool.and_eq_true]
  exact ⟨And.right, fun hf => ⟨himp x hx hf, hf⟩⟩

/-! ## One list after shorter ones -/

/-- After some lists, the one of a call comes next: those before it lie in it or do not overlap it,
and all that lie in it come before it. -/
structure Turn (style : Style) (s : Source) (done : List Call) (c : Call) : Prop where
  mem : c ∈ lists style s
  before : ∀ d ∈ done, d ∈ lists style s
  apart : ∀ d ∈ done, surrounds c d = true ∨ c.span.overlaps d.span = false
  inner : ((lists style s).filter (surrounds c)).Perm (done.filter (surrounds c))

section

variable {style : Style} {s : Source} {done : List Call} {c : Call}

/-- Two lists that have something in common lie one in the other. -/
theorem Turn.surrounds_of_contains (hturn : Turn style s done c) {d : Call} (hd : d ∈ done)
    {span : ByteSpan} (hfilled : span.start < span.stop) (hc : c.span.contains span = true)
    (hdspan : d.span.contains span = true) : surrounds c d = true := by
  refine (hturn.apart d hd).resolve_right fun hfree => ?_
  rw [contains_iff] at hc hdspan
  rw [overlaps_eq_false_iff] at hfree
  omega

variable (hs : Tidy style s) (hturn : Turn style s done c)

include hs hturn

/-- What is queued in an argument lies in no list outside of the call's.  The delicate case is an
insertion where the call's list ends and another one starts. -/
theorem surrounds_of_isAbsorbedBy {a : Argument} (ha : a ∈ c.arguments) {q : Edit}
    (hq : q ∈ s.edits.queue) (hwithin : isWithin a.span q.span = true) {d : Call} (hd : d ∈ done)
    (habsorbed : isAbsorbedBy d.span q.span = true) : surrounds c d = true := by
  have hc := hs.list c hturn.mem
  have hordered := q.span.ordered
  have harg := contains_iff.1 (hc.arguments a ha).2
  obtain ⟨hin, hend⟩ := isWithin_iff.1 hwithin
  obtain ⟨hdspan, hbehind⟩ := isAbsorbedBy_iff.1 habsorbed
  rw [contains_iff] at hin hdspan
  refine (hturn.apart d hd).resolve_right fun hfree => ?_
  rcases overlaps_eq_false_iff.1 hfree with hbefore | hafter
  · exact hbehind (eq_point (by omega) (by omega))
  · have hcontains : c.span.contains q.span = true := contains_iff.2 (by omega)
    rcases hc.held q hq hcontains with ⟨b, hb, hholds, hnot⟩ | ⟨-, harguments⟩
    · have hbarg := contains_iff.1 (hc.arguments b hb).2
      rw [contains_iff] at hholds
      exact hnot (eq_point (by omega) (by omega))
    · have hstarts := harguments a ha
      have hempty := hend (eq_point (by omega) (by omega))
      omega

/-- In an argument there are the same changes whether or not lists outside of the call's are laid
out. -/
theorem filter_changes {a : Argument} (ha : a ∈ c.arguments) :
    ((changes style s done).filter fun q => isWithin a.span q.span) =
      (changes style s (done.filter (surrounds c))).filter fun q => isWithin a.span q.span := by
  have hc := hs.list c hturn.mem
  have harg := contains_iff.1 (hc.arguments a ha).2
  unfold changes
  rw [List.filter_append, List.filter_append]
  congr 1
  · unfold untouched
    rw [List.filter_filter, List.filter_filter]
    refine List.filter_congr fun q hq => ?_
    cases hwithin : isWithin a.span q.span with
    | false => rfl
    | true =>
        -- A list that takes an edit of the argument with it lies inside the call's.
        have hsame : ((done.filter (surrounds c)).any fun d => isAbsorbedBy d.span q.span) =
            done.any fun d => isAbsorbedBy d.span q.span :=
          any_filter_of_imp fun d hd habsorbed =>
            surrounds_of_isAbsorbedBy hs hturn ha hq hwithin hd habsorbed
        rw [hsame]
  · rw [List.filter_map, List.filter_map]
    congr 1
    unfold outermost
    rw [List.filter_filter, List.filter_filter, List.filter_filter]
    refine List.filter_congr fun d hd => ?_
    have hfilled := (hs.list d (hturn.before d hd)).filled
    cases hwithin : isWithin a.span d.span with
    | false => simp [hwithin]
    | true =>
        obtain ⟨hin, -⟩ := isWithin_iff.1 hwithin
        rw [contains_iff] at hin
        have hcontains : c.span.contains d.span = true := contains_iff.2 (by omega)
        have hinner : surrounds c d = true :=
          hturn.surrounds_of_contains hd hfilled hcontains (contains_iff.2 (by omega))
        -- And so does a list around another one of the argument, since longer ones were not laid
        -- out yet.
        have hsame : ((done.filter (surrounds c)).any fun e => surrounds e d) =
            done.any fun e => surrounds e d :=
          any_filter_of_imp fun e he hsurrounds =>
            hturn.surrounds_of_contains he hfilled hcontains (Bool.and_eq_true_iff.1 hsurrounds).1
        simp [hwithin, hinner, hsame]

omit hs hturn in
/-- Which lists are laid out is all that matters, and not in which order they are told. -/
theorem changes_perm {calls others : List Call} (hperm : calls.Perm others) :
    (changes style s calls).Perm (changes style s others) := by
  unfold changes untouched outermost
  simp only [hperm.any_eq]
  exact ((hperm.filter _).map _).append_left _

/-- The next list lies in none of those before it. -/
theorem not_surrounds {d : Call} (hd : d ∈ done) : surrounds d c = false := by
  rw [Bool.eq_false_iff]
  intro hsurrounds
  have hfilled := (hs.list c hturn.mem).filled
  have hshorter := length_of_surrounds hsurrounds
  have hinner := hturn.surrounds_of_contains hd hfilled (contains_iff.2 (by omega))
    (Bool.and_eq_true_iff.1 hsurrounds).1
  have hlonger := length_of_surrounds hinner
  omega

/-- A list before the next one is taken over by it if it lies in it. -/
theorem isAbsorbedBy_eq {d : Call} (hd : d ∈ done) :
    isAbsorbedBy c.span d.span = surrounds c d := by
  have hfilled := (hs.list d (hturn.before d hd)).filled
  rw [Bool.eq_iff_iff, isAbsorbedBy_iff]
  constructor
  · rintro ⟨hcontains, -⟩
    exact hturn.surrounds_of_contains hd hfilled hcontains (contains_iff.2 (by omega))
  · intro hsurrounds
    exact ⟨(Bool.and_eq_true_iff.1 hsurrounds).1, ne_point hfilled _⟩

theorem outermost_append :
    outermost (done ++ [c]) =
      ((outermost done).filter fun d => !isAbsorbedBy c.span d.span) ++ [c] := by
  have hself : surrounds c c = false := by simp [surrounds]
  have hlast : (done.any fun d => surrounds d c) = false := by
    rw [List.any_eq_false]
    intro d hd
    rw [not_surrounds hs hturn hd]
    exact Bool.false_ne_true
  unfold outermost
  rw [List.filter_append, List.filter_filter]
  congr 1
  · refine List.filter_congr fun d hd => ?_
    rw [List.any_append, isAbsorbedBy_eq hs hturn hd, Bool.not_or, Bool.and_comm]
    simp
  · simp [hlast, hself]

/-- A list that is laid out takes the place of the changes inside it. -/
theorem changes_append :
    changes style s (done ++ [c]) =
      ((changes style s done).filter fun q => !isAbsorbedBy c.span q.span) ++
        [⟨c.span, laid style s c⟩] := by
  have huntouched : untouched s (done ++ [c]) =
      (untouched s done).filter fun q => !isAbsorbedBy c.span q.span := by
    unfold untouched
    rw [List.filter_filter]
    refine List.filter_congr fun q _ => ?_
    rw [List.any_append, Bool.not_or, Bool.and_comm]
    simp
  unfold changes
  rw [huntouched, outermost_append hs hturn, List.map_append, List.filter_append, List.filter_map,
    List.append_assoc]
  rfl

omit hturn in
theorem cuts_changes {calls : List Call} (hcalls : ∀ d ∈ calls, d ∈ lists style s) :
    ∀ q ∈ changes style s calls, Cuts s.content q.span := by
  intro q hq
  rcases List.mem_append.1 hq with hq | hq
  · exact hs.queued q (List.mem_of_mem_filter hq)
  · obtain ⟨d, hd, rfl⟩ := List.mem_map.1 hq
    exact (hs.list d (hcalls d (List.mem_of_mem_filter hd))).cut

/-- Nothing that is left overlaps the next list after it took over what lies in it. -/
theorem conflict?_eq_none_of_turn {e : Edits} (hqueue : e.queue = changes style s done) :
    (e.absorb c.span).conflict? c.span = none := by
  refine conflict?_eq_none_of fun q hq _ => ?_
  obtain ⟨hq, hleft⟩ := List.mem_filter.1 hq
  rw [hqueue] at hq
  rcases List.mem_append.1 hq with hq | hq
  · refine ((hs.list c hturn.mem).whole q (List.mem_of_mem_filter hq)).elim (fun hcontains => ?_) id
    have hend : q.span = Span.point c.span.stop := by simpa [isAbsorbedBy, hcontains] using hleft
    rw [hend]
    exact overlaps_point_stop c.span
  · obtain ⟨d, hd, rfl⟩ := List.mem_map.1 hq
    have hd := List.mem_of_mem_filter hd
    refine (hturn.apart d hd).resolve_left fun hsurrounds => ?_
    rw [isAbsorbedBy_eq hs hturn hd, hsurrounds] at hleft
    cases hleft

end

/-! ## The run -/

/-- A file in which some lists are laid out. -/
structure Stage (style : Style) (s : Source) (done : List Call) (t : Source) : Prop where
  content : t.content = s.content
  encoding : t.encoding = s.encoding
  apart : t.edits.Apart
  queue : t.edits.queue = changes style s done

theorem argumentTexts_eq {t : Source} {arguments : List Argument} {text : Argument → String}
    (htexts : ∀ a ∈ arguments, t.renderRange a.span = .ok (text a)) :
    argumentTexts t arguments = .ok (arguments.map text) := by
  induction arguments with
  | nil => rfl
  | cons a rest ih =>
      obtain ⟨ha, hrest⟩ := List.forall_mem_cons.1 htexts
      rw [argumentTexts, ha, ih hrest, List.map_cons]

section

variable {style : Style} {s t : Source} {done : List Call} {c : Call} (hs : Tidy style s)
  (hturn : Turn style s done c) (ht : Stage style s done t)

include hs hturn ht

/-- An argument of the next list has the text that it should have. -/
theorem renderRange_argument {a : Argument} (ha : a ∈ c.arguments) :
    t.renderRange a.span = .ok (rangeText s.content a.span
      (changes style s ((lists style s).filter (surrounds c)))) := by
  have hcut : ∀ q ∈ t.edits.queue, Cuts t.content q.span := by
    rw [ht.content, ht.queue]
    exact cuts_changes hs hturn.before
  have hrange : Cuts t.content a.span := by
    rw [ht.content]
    exact ((hs.list c hturn.mem).arguments a ha).1
  rw [Source.renderRange_eq_rangeText (ht.encoding.trans hs.encoding) ht.apart hcut hrange,
    ht.content]
  refine congrArg Except.ok (rangeText_perm ?_ ht.apart.distinct)
  rw [ht.queue, filter_changes hs hturn ha]
  exact (changes_perm hturn.inner.symm).filter _

/-- The next list is laid out. -/
theorem stage_layOut (index : Nat) :
    ∃ t', layOut style t c index = .success () t' ∧ Stage style s (done ++ [c]) t' := by
  have htexts := argumentTexts_eq fun a ha => renderRange_argument hs hturn ht ha
  have hnone := conflict?_eq_none_of_turn hs hturn ht.queue
  unfold layOut
  rw [htexts]
  dsimp only
  rw [← laid_eq]
  unfold Source.replaceRegion Source.replace Edits.replace
  dsimp only
  rw [hnone]
  refine ⟨_, rfl, ht.content, ht.encoding, (ht.apart.absorb c.span).put hnone, ?_⟩
  exact (put_absorb t.edits (hs.list c hturn.mem).filled _).trans
    (by rw [ht.queue, changes_append hs hturn])

end

/-! ## All lists -/

theorem Nest.symm {c d : Call} (hnest : Nest c d) : Nest d c := by
  rcases hnest with hnest | hnest | hfree
  · exact Or.inr (Or.inl hnest)
  · exact Or.inl hnest
  · exact Or.inr (Or.inr (by rwa [overlaps_comm]))

/-- From the shortest list to the longest each one has its turn. -/
theorem turn_of_split {style : Style} {s : Source} (hs : Tidy style s) {done later : List Call}
    {c : Call} (hall : (done ++ c :: later).Perm (lists style s))
    (hsorted : (done ++ c :: later).Pairwise fun a b => a.span.length ≤ b.span.length) :
    Turn style s done c := by
  have hnest : (done ++ c :: later).Pairwise Nest :=
    hs.nest.perm hall.symm Nest.symm
  obtain ⟨-, hlater, hdone⟩ := List.pairwise_append.1 hsorted
  refine ⟨hall.mem_iff.1 (by simp), fun d hd => hall.mem_iff.1 (by simp [hd]), fun d hd => ?_, ?_⟩
  · have hlength := hdone d hd c List.mem_cons_self
    rcases (List.pairwise_append.1 hnest).2.2 d hd c List.mem_cons_self with hnest | hnest | hfree
    · have := length_of_surrounds hnest
      omega
    · exact Or.inl hnest
    · exact Or.inr (by rwa [overlaps_comm])
  · refine (hall.symm.filter (surrounds c)).trans ?_
    have hself : surrounds c c = false := by simp [surrounds]
    have hnone : later.filter (surrounds c) = [] := by
      rw [List.filter_eq_nil_iff]
      intro d hd hsurrounds
      have hlength := (List.pairwise_cons.1 hlater).1 d hd
      have := length_of_surrounds hsurrounds
      omega
    rw [List.filter_append, List.filter_cons_of_neg (by simp [hself]), hnone, List.append_nil]

/-- The lists are laid out, one after the other. -/
theorem stage_layOutAll {style : Style} {s t : Source} (hs : Tidy style s) {done : List Call}
    {rest : List (Call × Nat)} (hall : (done ++ rest.map Prod.fst).Perm (lists style s))
    (hsorted : (done ++ rest.map Prod.fst).Pairwise fun a b => a.span.length ≤ b.span.length)
    (ht : Stage style s done t) :
    ∃ t', layOutAll style t rest = .success rest.length t' ∧
      Stage style s (done ++ rest.map Prod.fst) t' := by
  induction rest generalizing done t with
  | nil =>
      refine ⟨t, rfl, ?_⟩
      rwa [List.map_nil, List.append_nil]
  | cons first rest ih =>
      obtain ⟨c, index⟩ := first
      obtain ⟨next, hlaid, hnext⟩ := stage_layOut hs (turn_of_split hs hall hsorted) ht index
      rw [List.map_cons, List.append_cons] at hall hsorted ⊢
      obtain ⟨t', hrest, ht'⟩ := ih hall hsorted hnext
      refine ⟨t', ?_, ht'⟩
      rw [layOutAll, hlaid, Attempt.andThen_success, hrest, List.length_cons, Nat.add_comm]
      rfl

theorem map_eligible_perm (style : Style) (s : Source) :
    ((eligible style s.calls).map Prod.fst).Perm (lists style s) := by
  have hfilter : (s.calls.zipIdx.filter fun c => isEligible style c.1).map Prod.fst =
      lists style s := by
    have hmap := List.filter_map (f := Prod.fst) (p := isEligible style) (l := s.calls.zipIdx)
    rw [List.zipIdx_map_fst] at hmap
    exact hmap.symm
  rw [← hfilter]
  exact (List.mergeSort_perm _ _).map _

theorem stage_nil {style : Style} {s : Source} (hs : Tidy style s) : Stage style s [] s := by
  refine ⟨rfl, rfl, hs.apart, ?_⟩
  simp [changes, untouched, outermost]

/-- All lists of a file are laid out, and nothing fails. -/
theorem stage_pass {style : Style} {s : Source} (hs : Tidy style s) :
    (pass style s).result = .ok (lists style s).length ∧
      Stage style s ((eligible style s.calls).map Prod.fst) (pass style s).state.1 := by
  have hsorted : ((eligible style s.calls).map Prod.fst).Pairwise fun a b =>
      a.span.length ≤ b.span.length :=
    List.pairwise_map.2 (pairwise_eligible style s.calls)
  have hlength : (eligible style s.calls).length = (lists style s).length := by
    rw [← (map_eligible_perm style s).length_eq, List.length_map]
  obtain ⟨t, hlaid, ht⟩ :=
    @stage_layOutAll style s s hs [] _ (map_eligible_perm style s) hsorted (stage_nil hs)
  unfold pass
  dsimp only
  rw [hlaid]
  exact ⟨congrArg Except.ok hlength, ht⟩

/-- The changes of a file are of different spans. -/
theorem distinct_changes {style : Style} {s : Source} (hs : Tidy style s) {calls : List Call}
    (hcalls : calls.Sublist (lists style s)) : ((changes style s calls).map Edit.span).Nodup := by
  have hspans : (calls.map Call.span).Nodup := by
    refine List.pairwise_map.2 ((hs.nest.sublist hcalls).imp_of_mem ?_)
    intro c d hc _ hnest hsame
    have hfilled := (hs.list c (hcalls.subset hc)).filled
    rcases hnest with hnest | hnest | hfree
    · exact of_decide_eq_true (Bool.and_eq_true_iff.1 hnest).2 hsame.symm
    · exact of_decide_eq_true (Bool.and_eq_true_iff.1 hnest).2 hsame
    · rw [← hsame, overlaps_eq_false_iff] at hfree
      omega
  unfold changes
  rw [List.map_append, List.nodup_append]
  refine ⟨hs.apart.distinct.sublist (List.filter_sublist.map _), ?_, ?_⟩
  · rw [List.map_map]
    exact hspans.sublist (List.filter_sublist.map _)
  · intro span hspan other hother hsame
    obtain ⟨q, hq, rfl⟩ := List.mem_map.1 hspan
    obtain ⟨edit, hedit, rfl⟩ := List.mem_map.1 hother
    obtain ⟨d, hd, rfl⟩ := List.mem_map.1 hedit
    have hd := List.mem_of_mem_filter hd
    have hfilled := (hs.list d (hcalls.subset hd)).filled
    -- A queued edit of the span of a list lies in the list.
    have habsorbed : isAbsorbedBy d.span q.span = true := by
      rw [hsame]
      exact isAbsorbedBy_iff.2
        ⟨contains_iff.2 ⟨Int.le_refl _, Int.le_refl _⟩, ne_point hfilled _⟩
    have hfree := (List.mem_filter.1 hq).2
    rw [Bool.not_eq_true', List.any_eq_false] at hfree
    exact hfree d hd habsorbed

/-! ## Whatever the order -/

section

variable {style : Style} {s t : Source} (hcontent : t.content = s.content)
  (hqueue : t.edits.queue.Perm s.edits.queue) (hcalls : t.calls.Perm s.calls)

include hqueue in
theorem changes_same {calls others : List Call} (hperm : calls.Perm others)
    (hlaid : ∀ c ∈ calls, laid style t c = laid style s c) :
    (changes style t calls).Perm (changes style s others) := by
  have houtermost : (outermost calls).map (fun c => (⟨c.span, laid style t c⟩ : Edit)) =
      (outermost calls).map fun c => ⟨c.span, laid style s c⟩ := by
    refine List.map_congr_left fun c hc => ?_
    rw [hlaid c (List.mem_of_mem_filter hc)]
  have huntouched : (untouched t calls).Perm (untouched s calls) := hqueue.filter _
  refine List.Perm.trans ?_ (changes_perm hperm)
  unfold changes
  rw [houtermost]
  exact huntouched.append_right _

include hcontent hqueue hcalls

/-- A list is laid out in one way, in whatever order calls and edits are told. -/
theorem laid_same (hs : Tidy style s) (c : Call) : laid style t c = laid style s c := by
  have hlists : (lists style t).Perm (lists style s) := hcalls.filter _
  have hinner := hlists.filter (surrounds c)
  have hchanges := changes_same hqueue hinner fun d hd =>
    have := length_of_surrounds (List.mem_filter.1 hd).2
    laid_same hs d
  rw [laid_eq, laid_eq, hcontent]
  congr 1
  refine List.map_congr_left fun a _ => ?_
  refine (rangeText_perm (hchanges.symm.filter _) ?_).symm
  exact distinct_changes hs List.filter_sublist
termination_by c.span.length

theorem tidy_same (hencoding : t.encoding = s.encoding) (hs : Tidy style s) : Tidy style t := by
  have hlists : (lists style t).Perm (lists style s) := hcalls.filter _
  refine ⟨hencoding.trans hs.encoding, by rw [hcontent]; exact hs.content, ?_, ?_, ?_, ?_⟩
  · refine ⟨(hqueue.map _).nodup_iff.2 hs.apart.distinct, fun a ha b hb => ?_⟩
    exact hs.apart.disjoint a (hqueue.mem_iff.1 ha) b (hqueue.mem_iff.1 hb)
  · intro q hq
    rw [hcontent]
    exact hs.queued q (hqueue.mem_iff.1 hq)
  · exact hs.nest.perm hlists.symm Nest.symm
  · intro c hc
    have hlist := hs.list c (hlists.mem_iff.1 hc)
    refine ⟨hlist.filled, ?_, ?_, ?_, ?_, ?_⟩
    · rw [hcontent]
      exact hlist.cut
    · rw [hcontent]
      exact hlist.arguments
    · exact fun q hq => hlist.whole q (hqueue.mem_iff.1 hq)
    · exact fun q hq => hlist.held q (hqueue.mem_iff.1 hq)
    · exact fun d hd => hlist.nested d (hlists.mem_iff.1 hd)

end

/-- A file is rendered with its lists laid out. -/
theorem render_pass {style : Style} {s : Source} (hs : Tidy style s) :
    (pass style s).state.1.render =
      .ok (fullText s.content (changes style s (lists style s))) := by
  obtain ⟨-, hstage⟩ := stage_pass hs
  have hperm := map_eligible_perm style s
  have hcut : ∀ q ∈ (pass style s).state.1.edits.queue,
      Cuts (pass style s).state.1.content q.span := by
    rw [hstage.content, hstage.queue]
    exact cuts_changes hs fun d hd => hperm.mem_iff.1 hd
  have hcontent : Text.IsUtf8 (pass style s).state.1.content := by
    rw [hstage.content]
    exact hs.content
  rw [Source.render_eq_fullText (hstage.encoding.trans hs.encoding) hcontent hstage.apart hcut,
    hstage.content]
  refine congrArg Except.ok (fullText_perm ?_ hstage.apart.distinct)
  rw [hstage.queue]
  exact changes_perm hperm

/-- Nothing in a list is lost: what is changed in it is changed in one of its arguments. -/
theorem exists_argument {style : Style} {s : Source} (hs : Tidy style s) {c : Call}
    (hc : c ∈ lists style s) {q : Edit}
    (hq : q ∈ changes style s ((lists style s).filter (surrounds c)))
    (habsorbed : isAbsorbedBy c.span q.span = true) :
    ∃ a ∈ c.arguments, isWithin a.span q.span = true := by
  obtain ⟨hcontains, hend⟩ := isAbsorbedBy_iff.1 habsorbed
  rcases List.mem_append.1 hq with hq | hq
  · rcases (hs.list c hc).held q (List.mem_of_mem_filter hq) hcontains with
      ⟨a, ha, hholds, hnot⟩ | ⟨hpoint, -⟩
    · exact ⟨a, ha, isWithin_iff.2 ⟨hholds, fun hpoint => absurd hpoint hnot⟩⟩
    · exact absurd hpoint hend
  · obtain ⟨d, hd, rfl⟩ := List.mem_map.1 hq
    obtain ⟨hd, hsurrounds⟩ := List.mem_filter.1 (List.mem_of_mem_filter hd)
    obtain ⟨a, ha, hholds⟩ := (hs.list c hc).nested d hd hsurrounds
    have hfilled := (hs.list d hd).filled
    exact ⟨a, ha, isWithin_iff.2 ⟨hholds, fun hpoint => absurd hpoint (ne_point hfilled _)⟩⟩

/-- **Laying a file out is laying its lists out recursively.**  Nothing fails.  The file is rendered
with the edits that lie in no list, and with each outermost list laid out; the text of an argument
has in it what is queued there and the lists that are laid out there, and nothing in a list is lost.
It does not matter in which order the calls are told and the edits are queued. -/
theorem pass_eq_laid (style : Style) (s : Source) (hs : Tidy style s) :
    (pass style s).result = .ok (lists style s).length ∧
      (pass style s).state.1.render =
        .ok (fullText s.content (changes style s (lists style s))) ∧
      (∀ c ∈ lists style s, ∀ q ∈ changes style s ((lists style s).filter (surrounds c)),
        isAbsorbedBy c.span q.span = true → ∃ a ∈ c.arguments, isWithin a.span q.span = true) ∧
      ∀ calls queue, calls.Perm s.calls → queue.Perm s.edits.queue →
        (pass style { s with calls, edits := ⟨queue⟩ }).state.1.render =
          (pass style s).state.1.render := by
  refine ⟨(stage_pass hs).1, render_pass hs,
    fun c hc q hq habsorbed => exists_argument hs hc hq habsorbed, ?_⟩
  intro calls queue hcalls hqueue
  let t : Source := { s with calls, edits := ⟨queue⟩ }
  have hcontent : t.content = s.content := rfl
  have ht : Tidy style t := tidy_same hcontent hqueue hcalls rfl hs
  have hlists : (lists style t).Perm (lists style s) := hcalls.filter _
  have hchanges : (changes style t (lists style t)).Perm (changes style s (lists style s)) :=
    changes_same hqueue hlists fun c _ => laid_same hcontent hqueue hcalls hs c
  rw [render_pass hs]
  refine (render_pass ht).trans (congrArg Except.ok ?_)
  exact fullText_perm hchanges (distinct_changes ht (List.Sublist.refl _))

/-- A call in an argument of another one, with a longer letter in front.  A value is changed in the
inner list, an argument of the outer list gets a name, and a sign is put behind the outer list. -/
def nestedCalls : Source where
  path := .ofString "nested"
  content := Text.encodeUtf8 "é(a: g(b: 1, c: 2), 3)"
  calls := [
    { kind := .method
      span := ⟨2, 23, by decide⟩
      arguments :=
        [⟨⟨3, 19, by decide⟩, true, false, some "a"⟩, ⟨⟨21, 22, by decide⟩, false, false, none⟩] },
    { kind := .method
      span := ⟨7, 19, by decide⟩
      arguments :=
        [⟨⟨8, 12, by decide⟩, true, false, some "b"⟩,
          ⟨⟨14, 18, by decide⟩, true, false, some "c"⟩] }]
  edits := ⟨[⟨⟨11, 12, by decide⟩, "10"⟩, ⟨.point 21, "d: "⟩, ⟨.point 23, ";"⟩]⟩

theorem pass_eq_laid_nestedCalls :
    Tidy ⟨2, "  "⟩ nestedCalls ∧
      (pass ⟨2, "  "⟩ nestedCalls).result = .ok 2 ∧
      (pass ⟨2, "  "⟩ nestedCalls).state.1.render =
        .ok (fullText nestedCalls.content
          (changes ⟨2, "  "⟩ nestedCalls (lists ⟨2, "  "⟩ nestedCalls))) := by
  have htidy : Tidy ⟨2, "  "⟩ nestedCalls :=
    ⟨rfl, by decide +kernel, ⟨by decide +kernel, by decide +kernel⟩, by decide +kernel,
      by decide +kernel, by decide +kernel⟩
  obtain ⟨hresult, hrender, -, -⟩ := pass_eq_laid ⟨2, "  "⟩ nestedCalls htidy
  exact ⟨htidy, hresult, hrender⟩

end Rechristen.ArgumentLayout
