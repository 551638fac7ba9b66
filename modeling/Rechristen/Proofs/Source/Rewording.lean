import Rechristen.Pass.References
import Rechristen.Proofs.Attempt

/-!
# The references of a file after it was reworked

References are respelled one after the other, each by its place in the file.  If all goes well, each
of them has the name and the alias that were chosen for it, and nothing else about it has changed
(`Source.rewordAll_references`).  This holds of both passes over a file: the one made when a
declaration was renamed, and the one made in the end, which is a rewording too
(`References.fix_reword`).  What a reference stands for depends on part of this only (`Reworded`).
-/

namespace Rechristen

namespace Reference

/-- `a` is the reference `b` with another name, if one is told.  Its alias may have changed too. -/
structure Reworded (name : Option Name) (b a : Reference) : Prop where
  name : a.name = name.getD b.name
  kind : a.kind = b.kind
  space : a.space = b.space
  group : a.group = b.group

/-- Each reference of `before` has become the one at its place in `after`, with the name that is
told for the place. -/
structure RewordedAt (names : Nat → Option Name) (before after : List Reference) : Prop where
  length : after.length = before.length
  each : ∀ i b a, before[i]? = some b → after[i]? = some a → Reworded (names i) b a

namespace RewordedAt

variable {first second : Nat → Option Name} {before after : List Reference}

/-- A reference that was there is there still. -/
theorem exists_after (hreworded : RewordedAt first before after) {i : Nat} {b : Reference}
    (hb : before[i]? = some b) : ∃ a, after[i]? = some a ∧ Reworded (first i) b a := by
  have hlt : i < after.length := by
    rw [hreworded.length]
    exact (List.getElem?_eq_some_iff.1 hb).1
  exact ⟨after[i], List.getElem?_eq_getElem hlt,
    hreworded.each i b _ hb (List.getElem?_eq_getElem hlt)⟩

theorem refl (references : List Reference) : RewordedAt (fun _ => none) references references where
  length := rfl
  each i b a hb ha := by
    obtain rfl := Option.some.inj (hb.symm.trans ha)
    exact ⟨rfl, rfl, rfl, rfl⟩

theorem congr (hreworded : RewordedAt first before after)
    (hnames : ∀ i < before.length, first i = second i) : RewordedAt second before after where
  length := hreworded.length
  each i b a hb ha := by
    rw [← hnames i (List.getElem?_eq_some_iff.1 hb).1]
    exact hreworded.each i b a hb ha

end RewordedAt

end Reference

open Reference

namespace Source

/-- The reference after a rewording.  An alias that has no place in the file stays. -/
def Rewording.applyTo (w : Rewording) (r : Reference) : Reference :=
  { r with
    name := w.name.getD r.name
    aliasName := if r.aliasSpan.isSome then w.aliasName.or r.aliasName else r.aliasName }

/-- The rewording for a place, of rewordings that are meant for the places from `index` on. -/
def Rewording.forPlace (index : Nat) (words : List Rewording) (i : Nat) : Rewording :=
  if index ≤ i then words[i - index]?.getD {} else {}

theorem Rewording.applyTo_empty : ({} : Rewording).applyTo = id := by
  funext r
  simp [applyTo]

theorem Rewording.forPlace_cons (index : Nat) (w : Rewording) (rest : List Rewording) (i : Nat) :
    forPlace index (w :: rest) i = if i = index then w else forPlace (index + 1) rest i := by
  unfold forPlace
  rcases Nat.lt_trichotomy i index with hlt | rfl | hlt
  · rw [if_neg (by omega), if_neg (by omega), if_neg (by omega)]
  · simp
  · obtain ⟨k, rfl⟩ := Nat.exists_eq_add_of_lt hlt
    have hplace : index + k + 1 - index = k + 1 := by omega
    have hlater : index + k + 1 - (index + 1) = k := by omega
    rw [if_pos (by omega), if_neg (by omega), if_pos (by omega), hplace, hlater,
      List.getElem?_cons_succ]

variable {s t : Source}

theorem replace_references {span : ByteSpan} {text : String}
    (hreplace : s.replace span text = ⟨.ok (), t⟩) : t.references = s.references := by
  unfold replace at hreplace
  split at hreplace
  · obtain ⟨-, rfl⟩ := Attempt.success_eq hreplace
    rfl
  · exact absurd hreplace Attempt.failure_ne

theorem respellReference_references {index : Nat} {name : Name}
    (hrespell : s.respellReference index name = ⟨.ok (), t⟩) :
    t.references = s.references.modify index (Rewording.applyTo ⟨some name, none⟩) := by
  have happly : Rewording.applyTo ⟨some name, none⟩ = ({ · with name }) := by
    funext r
    simp [Rewording.applyTo]
  unfold respellReference at hrespell
  cases hsite : s.references[index]? with
  | none =>
      rw [hsite] at hrespell
      obtain ⟨-, rfl⟩ := Attempt.success_eq hrespell
      rw [List.modify_eq_self (List.getElem?_eq_none_iff.1 hsite)]
  | some site =>
      rw [hsite] at hrespell
      obtain ⟨_, edited, hreplace, hrest⟩ := Attempt.andThen_ok hrespell
      obtain ⟨-, rfl⟩ := Attempt.success_eq hrest
      rw [happly, ← replace_references hreplace]

/-- What is done in a place depends on the reference that stands there only. -/
theorem modify_congr {references : List Reference} {index : Nat} {site : Reference}
    (hsite : references[index]? = some site) {f g : Reference → Reference} (hfg : f site = g site) :
    references.modify index f = references.modify index g := by
  apply List.ext_getElem?
  intro i
  rw [List.getElem?_modify, List.getElem?_modify]
  by_cases hi : index = i
  · subst hi
    simp [hsite, hfg]
  · simp [hi]

theorem respellAlias_references {index : Nat} {name : Name}
    (hrespell : s.respellAlias index name = ⟨.ok (), t⟩) :
    t.references = s.references.modify index (Rewording.applyTo ⟨none, some name⟩) := by
  unfold respellAlias at hrespell
  cases hsite : s.references[index]? with
  | none =>
      rw [hsite] at hrespell
      obtain ⟨-, rfl⟩ := Attempt.success_eq hrespell
      rw [List.modify_eq_self (List.getElem?_eq_none_iff.1 hsite)]
  | some site =>
      rw [hsite, Option.bind_some] at hrespell
      cases hspan : site.aliasSpan with
      | none =>
          rw [hspan] at hrespell
          obtain ⟨-, rfl⟩ := Attempt.success_eq hrespell
          have happly : Rewording.applyTo ⟨none, some name⟩ site = id site := by
            rw [← Rewording.applyTo_empty, Rewording.applyTo, Rewording.applyTo, hspan]
            rfl
          rw [modify_congr hsite happly, List.modify_id]
      | some span =>
          rw [hspan] at hrespell
          obtain ⟨_, edited, hreplace, hrest⟩ := Attempt.andThen_ok hrespell
          obtain ⟨-, rfl⟩ := Attempt.success_eq hrest
          rw [← replace_references hreplace] at hsite ⊢
          refine modify_congr hsite ?_
          simp [Rewording.applyTo, hspan]

theorem reword_references {index count : Nat} {w : Rewording}
    (hreword : s.reword index w = ⟨.ok count, t⟩) :
    t.references = s.references.modify index w.applyTo := by
  obtain ⟨name, aliasName⟩ := w
  unfold reword at hreword
  obtain ⟨_, named, hnamed, hrest⟩ := Attempt.andThen_ok hreword
  have hname : named.references = s.references.modify index (Rewording.applyTo ⟨name, none⟩) := by
    cases name with
    | none =>
        obtain ⟨-, rfl⟩ := Attempt.success_eq hnamed
        rw [Rewording.applyTo_empty, List.modify_id]
    | some name =>
        obtain ⟨_, hrespell, -⟩ := Attempt.map_ok hnamed
        exact respellReference_references hrespell
  have halias : t.references =
      named.references.modify index (Rewording.applyTo ⟨none, aliasName⟩) := by
    cases aliasName with
    | none =>
        obtain ⟨-, rfl⟩ := Attempt.success_eq hrest
        rw [Rewording.applyTo_empty, List.modify_id]
    | some aliasName =>
        obtain ⟨_, hrespell, -⟩ := Attempt.map_ok hrest
        exact respellAlias_references hrespell
  rw [halias, hname, List.modify_modify_eq]
  congr 1
  funext r
  simp [Rewording.applyTo]

/-- One place is reworked first, and then the places behind it. -/
theorem forPlace_step {before middle after : List Reference} {index : Nat} {w : Rewording}
    {rest : List Rewording} (hfirst : middle = before.modify index w.applyTo)
    (hrest : ∀ i, after[i]? = middle[i]?.map (Rewording.forPlace (index + 1) rest i).applyTo)
    (i : Nat) : after[i]? = before[i]?.map (Rewording.forPlace index (w :: rest) i).applyTo := by
  rw [hrest, hfirst, List.getElem?_modify, Rewording.forPlace_cons]
  by_cases hi : i = index
  · subst hi
    have hnone : Rewording.forPlace (i + 1) rest i = {} := if_neg (by omega)
    simp [hnone, Rewording.applyTo_empty]
  · simp [hi, Ne.symm hi]

theorem rewordFrom_references {index count : Nat} {words : List Rewording}
    (hreword : s.rewordFrom index words = ⟨.ok count, t⟩) (i : Nat) :
    t.references[i]? = s.references[i]?.map (Rewording.forPlace index words i).applyTo := by
  induction words generalizing s index count i with
  | nil =>
      obtain ⟨-, rfl⟩ := Attempt.success_eq hreword
      have hnone : Rewording.forPlace index [] i = {} := by simp [Rewording.forPlace]
      rw [hnone, Rewording.applyTo_empty, Option.map_id, id]
  | cons w rest ih =>
      rw [rewordFrom] at hreword
      obtain ⟨_, middle, hfirst, hrest⟩ := Attempt.andThen_ok hreword
      obtain ⟨_, hrest, -⟩ := Attempt.map_ok hrest
      exact forPlace_step (reword_references hfirst) (ih hrest) i

/-- **References after a rewording.**  Each reference is changed as told for its place, and in
nothing else. -/
theorem rewordAll_references {count : Nat} {words : List Rewording}
    (hreword : s.rewordAll words = ⟨.ok count, t⟩) :
    t.references = s.references.mapIdx fun i => (words[i]?.getD {}).applyTo := by
  apply List.ext_getElem?
  intro i
  rw [rewordFrom_references hreword i, List.getElem?_mapIdx, Rewording.forPlace,
    if_pos (Nat.zero_le i), Nat.sub_zero]

theorem rewordAll_ok {count : Nat} {words : List Rewording}
    (hreword : s.rewordAll words = ⟨.ok count, t⟩) :
    RewordedAt (fun i => (words.map Rewording.name)[i]?.join) s.references t.references where
  length := by rw [rewordAll_references hreword, List.length_mapIdx]
  each i b a hb ha := by
    rw [rewordAll_references hreword, List.getElem?_mapIdx, hb, Option.map_some] at ha
    obtain rfl := Option.some.inj ha
    rw [List.getElem?_map]
    cases words[i]? <;> exact ⟨rfl, rfl, rfl, rfl⟩

end Source

namespace References

/-- The name a fix gives to a reference. -/
def Fix.name? : Fix → Option Name
  | .respell name => some name
  | _ => none

/-- Fixing references is rewording them. -/
theorem fixFrom_reword {source after : Source} {index count : Nat} {fixes : List (Reference × Fix)}
    {notes : Notes} (hfix : fixFrom source index fixes = ⟨.ok count, (after, notes)⟩) :
    source.rewordFrom index (fixes.map fun f => ⟨f.2.name?, none⟩) = ⟨.ok count, after⟩ := by
  induction fixes generalizing source index count notes with
  | nil =>
      obtain ⟨rfl, hstate⟩ := Attempt.success_eq hfix
      cases hstate
      rfl
  | cons first rest ih =>
      obtain ⟨site, fix⟩ := first
      -- Every case leaves the place at hand with its name or the new one, and goes on.
      have hparts : ∃ middle first later notes,
          source.reword index ⟨fix.name?, none⟩ = ⟨.ok first, middle⟩ ∧
          fixFrom middle (index + 1) rest = ⟨.ok later, (after, notes)⟩ ∧
          first + later = count := by
        cases fix with
        | keep => exact ⟨source, 0, count, notes, rfl, hfix, Nat.zero_add count⟩
        | inexpressible new group =>
            rw [fixFrom] at hfix
            obtain ⟨⟨middle, later⟩, hrest, hstate⟩ := Attempt.into_ok hfix
            cases hstate
            exact ⟨source, 0, count, later, rfl, hrest, Nat.zero_add count⟩
        | respell name =>
            rw [fixFrom] at hfix
            obtain ⟨_, ⟨middle, _⟩, hinto, hmap⟩ := Attempt.andThen_ok hfix
            obtain ⟨_, hrespell, hstate⟩ := Attempt.into_ok hinto
            cases hstate
            obtain ⟨n, hrest, rfl⟩ := Attempt.map_ok hmap
            refine ⟨middle, 1, n, notes, ?_, hrest, rfl⟩
            rw [Source.reword, Fix.name?]
            dsimp only
            rw [hrespell]
            rfl
      obtain ⟨middle, n, later, notes, hfirst, hrest, rfl⟩ := hparts
      rw [List.map_cons, Source.rewordFrom, hfirst, Attempt.andThen]
      dsimp only
      rw [ih hrest]
      rfl

theorem fix_reword {registry : Registry} {source after : Source} {count : Nat} {notes : Notes}
    (hfix : fix registry source = ⟨.ok count, (after, notes)⟩) :
    source.rewordAll (source.references.map fun r =>
      ⟨(fixOf registry (fun space => Resolver.ofReferences space source.references) r).name?,
        none⟩) = ⟨.ok count, after⟩ := by
  have hfrom : ∃ notes, fixFrom source 0 (source.references.map fun r =>
      (r, fixOf registry (fun space => Resolver.ofReferences space source.references) r)) =
        ⟨.ok count, (after, notes)⟩ := by
    unfold fix at hfix
    dsimp only at hfix
    split at hfix
    case h_1 n hn =>
      split at hfix
      · exact ⟨notes, hfix⟩
      · obtain ⟨⟨middle, earlier⟩, hattempt, hstate⟩ := Attempt.into_ok hfix
        cases hstate
        exact ⟨earlier, hattempt⟩
    case h_2 cause hcause =>
      rw [hfix] at hcause
      cases hcause
  obtain ⟨notes, hfrom⟩ := hfrom
  have hreword := fixFrom_reword hfrom
  rwa [List.map_map] at hreword

theorem fix_ok {registry : Registry} {source after : Source} {count : Nat} {notes : Notes}
    (hfix : fix registry source = ⟨.ok count, (after, notes)⟩) :
    RewordedAt (fun i => source.references[i]?.bind fun r =>
        (fixOf registry (fun space => Resolver.ofReferences space source.references) r).name?)
      source.references after.references := by
  refine (Source.rewordAll_ok (fix_reword hfix)).congr fun i hi => ?_
  rw [List.map_map, List.getElem?_map]
  cases source.references[i]? <;> rfl

end References

end Rechristen
