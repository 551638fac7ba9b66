import Rechristen.Proofs.Policy.Idempotence

/-!
# Endings that shrink

A table of endings is applied until nothing is left to replace, or until a name comes back.  If
every ending is replaced by a shorter one and no ending is added, only the first happens: names get
shorter and shorter, so none comes back, and there are fewer steps than the name has characters.

The table is arbitrary.  A replacement may bring out any other ending of the table, and an ending
that is the whole name is passed over for a later one.  What is left is not empty, and nothing of it
can be replaced.
-/

namespace Rechristen.EndingTable

variable {t : EndingTable} {count : Nat} {seen : Std.TreeSet String} {name settled : String}

/-- The loop makes `count` steps, each to a name that was not seen, and then there is none to
make. -/
inductive StableAfter (t : EndingTable) : Nat → Std.TreeSet String → String → String → Prop
  | stable {seen : Std.TreeSet String} {name : String} : t.step? name = none →
      StableAfter t 0 seen name name
  | step {count : Nat} {seen : Std.TreeSet String} {name next settled : String} :
      t.step? name = some next → next ∉ seen →
      StableAfter t count (seen.insert next) next settled →
      StableAfter t (count + 1) seen name settled

namespace StableAfter

theorem step?_eq_none (hrun : t.StableAfter count seen name settled) : t.step? settled = none := by
  induction hrun with
  | stable hnone => exact hnone
  | step _ _ _ ih => exact ih

/-- A limit that allows for the steps does not matter. -/
theorem settle_eq (hrun : t.StableAfter count seen name settled) {limit : Nat}
    (hlimit : count ≤ limit) : t.settle limit seen name = settled := by
  induction hrun generalizing limit with
  | stable hnone =>
      cases limit with
      | zero => rfl
      | succ limit => rw [settle, hnone]
  | step hnext hfresh _ ih =>
      cases limit with
      | zero => omega
      | succ limit =>
          rw [settle, hnext]
          simp only [if_neg hfresh]
          exact ih (by omega)

end StableAfter

/-- By induction on the length of the name.  All names seen are at least as long as the present one,
and the next one is shorter. -/
theorem Shrinking.stableAfter (ht : t.Shrinking) (hname : name ≠ "")
    (hseen : ∀ old ∈ seen, name.length ≤ old.length) :
    ∃ count settled, t.StableAfter count seen name settled ∧
      count + settled.length ≤ name.length ∧ settled ≠ "" := by
  induction hlength : name.length using Nat.strong_induction_on generalizing name seen with
  | _ length ih =>
      subst hlength
      cases hstep : t.step? name with
      | none => exact ⟨0, name, .stable hstep, by omega, hname⟩
      | some next =>
          have hshorter : next.length < name.length := ht.length_lt hstep
          have hfresh : next ∉ seen := by
            intro hmem
            have hlonger := hseen next hmem
            omega
          have hseen' : ∀ old ∈ seen.insert next, next.length ≤ old.length := by
            intro old hold
            rcases Std.TreeSet.mem_insert.1 hold with hnext | hold
            · rw [Std.LawfulEqCmp.eq_of_compare hnext]
            · have hlonger := hseen old hold
              omega
          obtain ⟨count, settled, hrun, hcount, hsettled⟩ :=
            ih next.length hshorter (ne_empty_of_step? hstep) hseen' rfl
          exact ⟨count + 1, settled, .step hstep hfresh hrun, by omega, hsettled⟩

/-- **Shrinking endings.**  If all endings of a table get shorter and none is added, the loop on a
name that is not empty ends because no step is left, and never because a name comes back.  It makes
fewer steps than the name has characters: each of them makes it shorter, and some character stays.
The name that is left is what the table asks for, and it asks for nothing in its place. -/
theorem stable_of_shrinking (ht : t.Shrinking) (hname : name ≠ "") :
    ∃ count settled, t.StableAfter count {name} name settled ∧ count < name.length ∧
      settled ≠ "" ∧ t.step? settled = none ∧
      t.transform name = (if settled = name then none else some settled) ∧
      t.transform settled = none := by
  have hseen : ∀ old ∈ ({name} : Std.TreeSet String), name.length ≤ old.length := by
    intro old hold
    rcases Std.TreeSet.mem_insert.1 hold with hself | hnone
    · rw [Std.LawfulEqCmp.eq_of_compare hself]
    · simp at hnone
  obtain ⟨count, settled, hrun, hcount, hsettled⟩ := ht.stableAfter hname hseen
  have hleft : 0 < settled.length := by
    rw [Nat.pos_iff_ne_zero, Ne, String.length_eq_zero_iff]
    exact hsettled
  have hlast : t.step? settled = none := hrun.step?_eq_none
  have hsettle : t.settle (stepLimit name) {name} name = settled :=
    hrun.settle_eq (by rw [stepLimit]; omega)
  refine ⟨count, settled, hrun, by omega, hsettled, hlast, ?_, ?_⟩
  · rw [transform, hsettle]
  · exact ht.calm.transform_eq_none_iff.2 hlast

/-- The longer ending is taken first.  Then it is the whole name and would leave nothing, so that
the shorter one is taken. -/
def nestedEndings : EndingTable where
  replacements := [⟨"ReadModel", ""⟩, ⟨"Model", "M"⟩, ⟨"dM", ""⟩]

theorem stable_of_shrinking_nestedEndings :
    nestedEndings.Shrinking ∧
      ∃ count, nestedEndings.StableAfter count {"ReadModelReadModel"} "ReadModelReadModel" "Rea" ∧
        count < 18 ∧ nestedEndings.transform "Rea" = none := by
  have htable : nestedEndings.Shrinking := by decide
  have hname : "ReadModelReadModel" ≠ "" := by decide
  have hresult : nestedEndings.transform "ReadModelReadModel" = some "Rea" := by decide +kernel
  obtain ⟨count, settled, hrun, hcount, -, -, htransform, hagain⟩ :=
    stable_of_shrinking htable hname
  have hsettled : settled = "Rea" := by
    rw [hresult] at htransform
    split at htransform
    · cases htransform
    · exact (Option.some.inj htransform).symm
  subst hsettled
  exact ⟨htable, count, hrun, hcount, hagain⟩

end Rechristen.EndingTable
