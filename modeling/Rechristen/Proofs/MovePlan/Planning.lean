import Rechristen.MovePlan
import Rechristen.Proofs.Keyed

/-!
# One destination for each file

A plan is read as a map from files to destinations (`target?`).  Planning a move changes what the
plan says of one file, and what it says of that file afterwards depends on what it said before, on
the move and on how collisions are settled, but on no other file (`target?_judge`).
-/

namespace Rechristen.MovePlan

variable {p : MovePlan} {m : Move} {source : Path} {supersede : Bool} {policy : CollisionPolicy}

/-- No file is planned twice. -/
def WellFormed (p : MovePlan) : Prop :=
  (p.moves.map Move.source).Nodup

instance (p : MovePlan) : Decidable p.WellFormed :=
  inferInstanceAs (Decidable (List.Nodup _))

theorem target?_eq (p : MovePlan) (source : Path) :
    p.target? source = (Keyed.find? Move.source p.moves source).map Move.target := rfl

theorem contains_eq (p : MovePlan) (source : Path) :
    p.contains source = p.moves.any fun n => n.source = source := by
  rw [Bool.eq_iff_iff, contains, target?, Option.isSome_map, List.find?_isSome, List.any_eq_true]

theorem put_eq (p : MovePlan) (m : Move) : p.put m = ⟨Keyed.upsert Move.source p.moves m⟩ := by
  unfold put Keyed.upsert
  rw [contains_eq]
  split <;> rfl

theorem target?_put (p : MovePlan) (m : Move) (source : Path) :
    (p.put m).target? source = if source = m.source then some m.target else p.target? source := by
  rw [target?_eq, target?_eq, put_eq, Keyed.find?_upsert]
  split <;> rfl

theorem target?_erase (p : MovePlan) (erased source : Path) :
    (p.erase erased).target? source = if source = erased then none else p.target? source := by
  unfold target? erase
  rw [List.find?_filter]
  by_cases hsource : source = erased
  · simp only [hsource, if_true, Option.map_eq_none_iff, List.find?_eq_none]
    simp
  · rw [if_neg hsource]
    congr 2
    funext n
    by_cases hn : n.source = source
    · simp [hn, hsource]
    · simp [hn]

/-- What a plan without repetitions says is what it holds. -/
theorem WellFormed.mem_iff (hp : p.WellFormed) :
    m ∈ p.moves ↔ p.target? m.source = some m.target := by
  rw [target?_eq]
  constructor
  · intro hm
    rw [Keyed.find?_of_mem hp hm, Option.map_some]
  · intro htarget
    obtain ⟨n, hfind, hn⟩ := Option.map_eq_some_iff.1 htarget
    have hsource : n.source = m.source := Keyed.find?_some_key hfind
    have hsame : n = m := by
      cases n
      cases m
      simp_all
    rw [← hsame]
    exact Keyed.find?_some_mem hfind

theorem WellFormed.put (hp : p.WellFormed) (m : Move) : (p.put m).WellFormed := by
  unfold WellFormed
  rw [put_eq]
  exact Keyed.nodup_upsert hp m

theorem WellFormed.erase (hp : p.WellFormed) (source : Path) : (p.erase source).WellFormed :=
  List.Nodup.sublist (List.filter_sublist.map Move.source) hp

/-! ## Planning a move -/

/-- The destination of a file after a move of it was planned; `current` is the one it had. -/
def destination (policy : CollisionPolicy) (m : Move) (supersede : Bool) (current : Option Path) :
    Option Path :=
  if m.source = m.target then if supersede then none else current
  else
    match current.filter fun target => target ≠ m.target && !supersede with
    | none => some m.target
    | some other => if policy = .lastWins then some m.target else some other

/-- **Planning.**  What a plan says of the file to be moved, and that it says nothing new of
others. -/
theorem target?_judge (p : MovePlan) (policy : CollisionPolicy) (m : Move) (supersede : Bool)
    (source : Path) :
    ((p.judge policy m supersede).plan p).target? source =
      if source = m.source then destination policy m supersede (p.target? source)
      else p.target? source := by
  unfold judge destination
  by_cases hstays : m.source = m.target
  · rw [if_pos hstays, if_pos hstays]
    cases supersede with
    | false => simp [Verdict.plan]
    | true => simpa [Verdict.plan] using target?_erase p m.source source
  · rw [if_neg hstays, if_neg hstays]
    by_cases hsource : source = m.source
    · subst hsource
      rw [if_pos rfl]
      cases hother : (p.target? m.source).filter fun target => target ≠ m.target && !supersede with
      | none => simp [Verdict.plan, target?_put]
      | some other =>
          obtain ⟨hcurrent, -⟩ := Option.filter_eq_some_iff.1 hother
          cases policy <;> simp [Verdict.plan, target?_put, hcurrent]
    · rw [if_neg hsource]
      split
      · simp [Verdict.plan, target?_put, hsource]
      · cases policy <;> simp [Verdict.plan, target?_put, hsource]

theorem WellFormed.judge (hp : p.WellFormed) (policy : CollisionPolicy) (m : Move)
    (supersede : Bool) : ((p.judge policy m supersede).plan p).WellFormed := by
  unfold MovePlan.judge
  split
  · cases supersede with
    | false => exact hp
    | true => exact hp.erase m.source
  · split
    · exact hp.put m
    · cases policy with
      | firstWins => exact hp
      | lastWins => exact hp.put m
      | error => exact hp

end Rechristen.MovePlan
