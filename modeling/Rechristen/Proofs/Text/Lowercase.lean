import Mathlib.Data.Char
import Rechristen.Name

/-!
# Lower-case forms segment by segment

The lower-case form of a character may depend on the characters around it: a capital sigma looks for
letters before and after it.  It never looks past a separator, which is neither a letter nor one of
the characters that are passed over.  So the lower-case form of a name is that of its segments
(`lowerFrom_append_separator`), and the segments of a lower-case form are the lower-case forms of
segments (`lowerFrom_eq_append_separator`).

A lower-case form is as long as the text, unless there is a capital I with dot in it: that becomes
an i and a dot, two characters (`length_eq_of_lowerFrom`).
-/

namespace Rechristen.Text

open Name (separator)

/-! ## Separators -/

theorem isCaseIgnorable_separator : isCaseIgnorable separator = false := by
  -- Evaluated on the list of ranges: the loop over the array is slow to check.
  unfold isCaseIgnorable inRanges
  rw [← Array.any_toList]
  decide +kernel

theorem isCased_separator : isCased separator = false := by decide +kernel

/-- A separator ends the search for a letter. -/
theorem meetsCased_append_separator (cs rest : List Char) :
    meetsCased (cs ++ separator :: rest) = meetsCased cs := by
  induction cs with
  | nil => simp [meetsCased, isCaseIgnorable_separator, isCased_separator]
  | cons c cs ih =>
      unfold meetsCased at ih ⊢
      cases hc : isCaseIgnorable c with
      | true => simpa [hc] using ih
      | false => simp [hc]

/-- No other character becomes `t` in lower case if `t` is no lower-case form in the table. -/
theorem lowerChar_eq_iff {t : Char} (hpositive : 0 < t.toNat)
    (hruns : ∀ run ∈ caseRuns.toList, (t.toNat : Int) < run.first + run.offset ∨
      run.last + run.offset < (t.toNat : Int))
    (hascii : ∀ n < 0x80, (Char.ofNat n).toLower = t → Char.ofNat n = t)
    (hself : lowerChar t = t) (c : Char) : lowerChar c = t ↔ c = t := by
  constructor
  · intro hlower
    unfold lowerChar at hlower
    split at hlower
    case isTrue hsmall =>
      have hc := hascii c.toNat hsmall
      rw [Char.ofNat_toNat] at hc
      exact hc hlower
    case isFalse =>
      split at hlower
      case h_1 run hrun =>
        -- A run that covers the character moves it to a place beside `t`.
        have hbeside := hruns run (Array.mem_of_find?_eq_some hrun).val
        have hcovers := Array.find?_some hrun
        simp only [Bool.and_eq_true, decide_eq_true_eq] at hcovers
        have hcode := congrArg Char.toNat hlower
        unfold Char.ofNat at hcode
        by_cases hvalid : (c.toNat + run.offset).toNat.isValidChar
        · rw [dif_pos hvalid] at hcode
          change (c.toNat + run.offset).toNat = t.toNat at hcode
          omega
        · rw [dif_neg hvalid] at hcode
          exact absurd hcode (Nat.ne_of_lt hpositive)
      case h_2 => exact hlower
  · rintro rfl
    exact hself

/-- No other character becomes a separator. -/
theorem lowerChar_eq_separator_iff (c : Char) : lowerChar c = separator ↔ c = separator :=
  lowerChar_eq_iff (by decide) (by decide +kernel) (by decide +kernel) (by decide +kernel) c

theorem lowerAt_separator (before after : List Char) :
    lowerAt before separator after = [separator] := by
  have hlower : lowerChar separator = separator := (lowerChar_eq_separator_iff separator).2 rfl
  unfold lowerAt
  rw [if_neg (by decide), if_neg (by decide), hlower]

theorem separator_mem_lowerAt {before after : List Char} {c : Char}
    (hmem : separator ∈ lowerAt before c after) : c = separator := by
  unfold lowerAt at hmem
  split at hmem
  · split at hmem <;> exact absurd hmem (by decide)
  · split at hmem
    · exact absurd hmem (by decide)
    · rw [List.mem_singleton] at hmem
      exact (lowerChar_eq_separator_iff c).1 hmem.symm

/-! ## Segments -/

/-- What stands after a separator does not matter to a character before it. -/
theorem lowerAt_append_separator (before after rest : List Char) (c : Char) :
    lowerAt before c (after ++ separator :: rest) = lowerAt before c after := by
  unfold lowerAt isFinalSigma
  rw [meetsCased_append_separator]

/-- What stands before a separator does not matter to the characters after it. -/
theorem lowerFrom_of_separator (before rest cs : List Char) :
    lowerFrom (before ++ separator :: rest) cs = lowerFrom before cs := by
  induction cs generalizing before with
  | nil => rfl
  | cons c cs ih =>
      have hat : lowerAt (before ++ separator :: rest) c cs = lowerAt before c cs := by
        unfold lowerAt isFinalSigma
        rw [meetsCased_append_separator]
      rw [lowerFrom, lowerFrom, hat]
      exact congrArg _ (ih (c :: before))

/-- The lower-case form of two parts with a separator between them. -/
theorem lowerFrom_append_separator (before cs rest : List Char) :
    lowerFrom before (cs ++ separator :: rest) =
      lowerFrom before cs ++ separator :: lowerFrom [] rest := by
  induction cs generalizing before with
  | nil =>
      have hfresh : lowerFrom (separator :: before) rest = lowerFrom [] rest :=
        lowerFrom_of_separator [] before rest
      change lowerAt before separator rest ++ lowerFrom (separator :: before) rest = _
      rw [lowerAt_separator, hfresh]
      rfl
  | cons c cs ih =>
      rw [List.cons_append, lowerFrom, lowerAt_append_separator, ih, lowerFrom, List.append_assoc]

/-- Conversely, a separator in a lower-case form comes from one in the text. -/
theorem lowerFrom_eq_append_separator {before cs left right : List Char}
    (hlower : lowerFrom before cs = left ++ separator :: right) :
    ∃ cs' rest, cs = cs' ++ separator :: rest ∧ lowerFrom before cs' = left ∧
      lowerFrom [] rest = right := by
  induction cs generalizing before left with
  | nil => simp [lowerFrom] at hlower
  | cons c cs ih =>
      rw [lowerFrom] at hlower
      by_cases hc : c = separator
      · subst hc
        rw [lowerAt_separator] at hlower
        cases left with
        | nil =>
            refine ⟨[], cs, rfl, rfl, ?_⟩
            rw [← lowerFrom_of_separator [] before cs]
            exact (List.cons.inj hlower).2
        | cons d left =>
            obtain ⟨rfl, htail⟩ := List.cons.inj hlower
            obtain ⟨cs', rest, rfl, hleft, hright⟩ := ih htail
            refine ⟨separator :: cs', rest, rfl, ?_, hright⟩
            rw [lowerFrom, lowerAt_separator, hleft]
            rfl
      · -- The form of `c` has no separator in it, so the text is split behind it.
        have hfree : separator ∉ lowerAt before c cs := fun hmem => hc (separator_mem_lowerAt hmem)
        have hsplit : ∃ middle, left = lowerAt before c cs ++ middle ∧
            lowerFrom (c :: before) cs = middle ++ separator :: right := by
          rcases List.append_eq_append_iff.1 hlower with ⟨middle, hleft, htail⟩ |
            ⟨middle, hat, htail⟩
          · exact ⟨middle, hleft, htail⟩
          · cases middle with
            | nil => exact ⟨[], by simpa using hat.symm, by simpa using htail.symm⟩
            | cons d middle =>
                obtain ⟨rfl, -⟩ := List.cons.inj htail
                exact absurd (by rw [hat]; simp) hfree
        obtain ⟨middle, rfl, htail⟩ := hsplit
        obtain ⟨cs', rest, rfl, hmiddle, hright⟩ := ih htail
        refine ⟨c :: cs', rest, rfl, ?_, hright⟩
        rw [lowerFrom, hmiddle, lowerAt_append_separator]

theorem separator_mem_lowerFrom_iff {before cs : List Char} :
    separator ∈ lowerFrom before cs ↔ separator ∈ cs := by
  constructor
  · intro hmem
    obtain ⟨left, right, hlower⟩ := List.append_of_mem hmem
    obtain ⟨cs', rest, rfl, -, -⟩ := lowerFrom_eq_append_separator hlower
    simp
  · intro hmem
    obtain ⟨cs', rest, rfl⟩ := List.append_of_mem hmem
    rw [lowerFrom_append_separator]
    simp

theorem lowerFrom_eq_nil_iff {before cs : List Char} : lowerFrom before cs = [] ↔ cs = [] := by
  cases cs with
  | nil => simp [lowerFrom]
  | cons c cs =>
      have hat : lowerAt before c cs ≠ [] := by
        unfold lowerAt
        split
        · simp
        · split <;> simp
      simp [lowerFrom, hat]

/-! ## Lengths -/

/-- The dot that remains of a capital I with dot, as a character of its own. -/
def dotAbove : Char := Char.ofNat 0x307

/-- No other character becomes a dot. -/
theorem lowerChar_eq_dotAbove_iff (c : Char) : lowerChar c = dotAbove ↔ c = dotAbove :=
  lowerChar_eq_iff (by decide) (by decide +kernel) (by decide +kernel) (by decide +kernel) c

/-- A dot comes from one in the text or from a capital I with dot. -/
theorem dotAbove_mem_lowerAt_iff {before after : List Char} {c : Char} :
    dotAbove ∈ lowerAt before c after ↔ c = 'İ' ∨ c = dotAbove := by
  unfold lowerAt
  by_cases hsigma : c = 'Σ'
  · subst hsigma
    rw [if_pos rfl]
    cases isFinalSigma before after <;> decide
  · rw [if_neg hsigma]
    by_cases hdotted : c = 'İ'
    · simp [hdotted, dotAbove]
    · rw [if_neg hdotted, List.mem_singleton, eq_comm, lowerChar_eq_dotAbove_iff]
      simp [hdotted]

theorem dotAbove_mem_lowerFrom_iff {before cs : List Char} :
    dotAbove ∈ lowerFrom before cs ↔ 'İ' ∈ cs ∨ dotAbove ∈ cs := by
  induction cs generalizing before with
  | nil => simp [lowerFrom]
  | cons c cs ih =>
      rw [lowerFrom, List.mem_append, dotAbove_mem_lowerAt_iff, ih, List.mem_cons, List.mem_cons,
        eq_comm (a := 'İ'), eq_comm (a := dotAbove)]
      exact or_or_or_comm

/-- Only the capital I with dot grows. -/
theorem length_lowerFrom {before cs : List Char} (hplain : 'İ' ∉ cs) :
    (lowerFrom before cs).length = cs.length := by
  induction cs generalizing before with
  | nil => rfl
  | cons c cs ih =>
      obtain ⟨hc, hcs⟩ := not_or.1 (mt List.mem_cons.2 hplain)
      have hat : (lowerAt before c cs).length = 1 := by
        unfold lowerAt
        split
        · rfl
        · rw [if_neg (Ne.symm hc)]
          rfl
      rw [lowerFrom, List.length_append, hat, ih hcs, List.length_cons, Nat.add_comm]

/-- A text without dots is as long as any text with the same lower-case form. -/
theorem length_eq_of_lowerFrom {before before' cs cs' : List Char}
    (hlower : lowerFrom before cs = lowerFrom before' cs') (hplain : 'İ' ∉ cs')
    (hundotted : dotAbove ∉ cs') : cs.length = cs'.length := by
  have hcs : 'İ' ∉ cs := by
    intro hmem
    have hdot : dotAbove ∈ lowerFrom before cs := dotAbove_mem_lowerFrom_iff.2 (Or.inl hmem)
    rw [hlower, dotAbove_mem_lowerFrom_iff] at hdot
    exact hdot.elim hplain hundotted
  rw [← length_lowerFrom hcs, hlower, length_lowerFrom hplain]

end Rechristen.Text
