import Mathlib.Data.List.DropRight
import Rechristen.Proofs.Text.Lowercase

/-!
# Texts that differ only in letter case

Texts are compared by their lower-case forms.  For ASCII letters that does what it should: a text in
which some of them change their case keeps its lower-case form, whatever other characters it has
(`Recased.lowercase_eq`).  This is more than a fact about single letters, since a capital sigma
looks at the letters around it; but it only asks whether there are any.

A lower-case form has separators where the text has them, between two parts (`lowercase_join`) and
at the ends (`lowercase_trim`).
-/

namespace Rechristen.Text

open Name (separator isSeparator)

/-! ## ASCII letters -/

/-- What does not tell the capitals of the alphabet from their small letters does not tell any
character from its small letter. -/
theorem toLower_invariant {α : Type} (f : Char → α)
    (hcapitals : ∀ n < 26, f (Char.ofNat (65 + n)).toLower = f (Char.ofNat (65 + n))) (c : Char) :
    f c.toLower = f c := by
  by_cases hc : c.val ≥ 'A'.val ∧ c.val ≤ 'Z'.val
  · have hlow : 65 ≤ c.toNat := UInt32.le_iff_toNat_le.1 hc.1
    have hhigh : c.toNat ≤ 90 := UInt32.le_iff_toNat_le.1 hc.2
    have hcapital := hcapitals (c.toNat - 65) (by omega)
    rwa [Nat.add_sub_cancel' hlow, Char.ofNat_toNat] at hcapital
  · have hsmall : c.toLower = c := dif_neg hc
    rw [hsmall]

theorem lowerChar_toLower (c : Char) : lowerChar c.toLower = lowerChar c :=
  toLower_invariant lowerChar (by decide +kernel) c

theorem isCased_toLower (c : Char) : isCased c.toLower = isCased c :=
  toLower_invariant isCased (by decide +kernel) c

theorem isCaseIgnorable_toLower (c : Char) : isCaseIgnorable c.toLower = isCaseIgnorable c := by
  refine toLower_invariant isCaseIgnorable ?_ c
  -- On the list of ranges, as for the separator.
  unfold isCaseIgnorable inRanges
  simp only [← Array.any_toList]
  decide +kernel

theorem toLower_eq_sigma_iff (c : Char) : c.toLower = 'Σ' ↔ c = 'Σ' := by
  have hsame := toLower_invariant (fun d => decide (d = 'Σ')) (by decide +kernel) c
  simpa using hsame

theorem toLower_eq_dottedI_iff (c : Char) : c.toLower = 'İ' ↔ c = 'İ' := by
  have hsame := toLower_invariant (fun d => decide (d = 'İ')) (by decide +kernel) c
  simpa using hsame

theorem meetsCased_map_toLower (cs : List Char) :
    meetsCased (cs.map Char.toLower) = meetsCased cs := by
  induction cs with
  | nil => rfl
  | cons c cs ih =>
      unfold meetsCased at ih ⊢
      rw [List.map_cons, List.dropWhile_cons, List.dropWhile_cons, isCaseIgnorable_toLower]
      split
      · exact ih
      · simp [isCased_toLower]

theorem lowerAt_map_toLower (before after : List Char) (c : Char) :
    lowerAt (before.map Char.toLower) c.toLower (after.map Char.toLower) =
      lowerAt before c after := by
  unfold lowerAt isFinalSigma
  simp only [meetsCased_map_toLower, lowerChar_toLower, toLower_eq_sigma_iff,
    toLower_eq_dottedI_iff]

theorem lowerFrom_map_toLower (before cs : List Char) :
    lowerFrom (before.map Char.toLower) (cs.map Char.toLower) = lowerFrom before cs := by
  induction cs generalizing before with
  | nil => rfl
  | cons c cs ih =>
      rw [List.map_cons, lowerFrom, lowerFrom, lowerAt_map_toLower, ← List.map_cons, ih]

/-- Two texts differ only in letter case.  For ASCII letters this is said letter by letter.  Letters
of any alphabet may change their case too if the lower-case form stays: a capital sigma has two
small letters, and only one of them is right at the end of a word. -/
def Recased (a b : String) : Prop :=
  a.toList.map Char.toLower = b.toList.map Char.toLower ∨ lowercase a = lowercase b

instance (a b : String) : Decidable (Recased a b) :=
  inferInstanceAs (Decidable (_ ∨ _))

theorem Recased.refl (a : String) : Recased a a :=
  Or.inl rfl

theorem Recased.lowercase_eq {a b : String} (hrecased : Recased a b) :
    lowercase a = lowercase b := by
  rcases hrecased with hascii | hlower
  · have hsame : lowerFrom [] a.toList = lowerFrom [] b.toList := by
      calc lowerFrom [] a.toList
          = lowerFrom [] (a.toList.map Char.toLower) := (lowerFrom_map_toLower [] a.toList).symm
        _ = lowerFrom [] (b.toList.map Char.toLower) := by rw [hascii]
        _ = lowerFrom [] b.toList := lowerFrom_map_toLower [] b.toList
    rw [lowercase, lowercase, hsame]
  · exact hlower

/-! ## Separators of lower-case forms -/

theorem toList_lowercase (s : String) : (lowercase s).toList = lowerFrom [] s.toList :=
  String.toList_ofList

theorem separator_mem_lowercase_iff {s : String} :
    separator ∈ (lowercase s).toList ↔ separator ∈ s.toList := by
  rw [toList_lowercase, separator_mem_lowerFrom_iff]

theorem lowercase_eq_empty_iff {s : String} : lowercase s = "" ↔ s = "" := by
  rw [← String.toList_eq_nil_iff, toList_lowercase, lowerFrom_eq_nil_iff, String.toList_eq_nil_iff]

/-- The lower-case form of two texts with a separator between them. -/
theorem lowercase_join (a b : String) :
    lowercase (a ++ String.singleton separator ++ b) =
      lowercase a ++ String.singleton separator ++ lowercase b := by
  rw [← String.toList_inj, toList_lowercase]
  simp [toList_lowercase, lowerFrom_append_separator]

/-- A separator that begins a lower-case form begins the text. -/
theorem lowerFrom_eq_separator_cons {cs right : List Char}
    (hlower : lowerFrom [] cs = separator :: right) : ∃ rest, cs = separator :: rest := by
  obtain ⟨front, rest, rfl, hfront, -⟩ :=
    lowerFrom_eq_append_separator (hlower.trans (List.nil_append _).symm)
  obtain rfl : front = [] := lowerFrom_eq_nil_iff.1 hfront
  exact ⟨rest, rfl⟩

/-- A separator that ends a lower-case form ends the text. -/
theorem lowerFrom_eq_concat_separator {cs left : List Char}
    (hlower : lowerFrom [] cs = left ++ [separator]) : ∃ front, cs = front ++ [separator] := by
  obtain ⟨front, rest, rfl, -, hrest⟩ := lowerFrom_eq_append_separator hlower
  obtain rfl : rest = [] := lowerFrom_eq_nil_iff.1 hrest
  exact ⟨front, rfl⟩

theorem lowerFrom_dropWhile (cs : List Char) :
    lowerFrom [] (cs.dropWhile isSeparator) = (lowerFrom [] cs).dropWhile isSeparator := by
  induction cs with
  | nil => rfl
  | cons c cs ih =>
      by_cases hc : c = separator
      · subst hc
        have hlower : lowerFrom [] (separator :: cs) = separator :: lowerFrom [] cs :=
          lowerFrom_append_separator [] [] cs
        rw [hlower]
        simpa [isSeparator] using ih
      · have hkept : (c :: cs).dropWhile isSeparator = c :: cs := by simp [isSeparator, hc]
        rw [hkept]
        cases hlower : lowerFrom [] (c :: cs) with
        | nil => rfl
        | cons d ds =>
            -- A form begins with a separator only if the text does.
            have hd : d ≠ separator := by
              rintro rfl
              obtain ⟨rest, hrest⟩ := lowerFrom_eq_separator_cons hlower
              exact hc (List.cons.inj hrest).1
            simp [isSeparator, hd]

theorem lowerFrom_rdropWhile (cs : List Char) :
    lowerFrom [] (cs.rdropWhile isSeparator) = (lowerFrom [] cs).rdropWhile isSeparator := by
  induction cs using List.reverseRecOn with
  | nil => rfl
  | append_singleton cs c ih =>
      by_cases hc : c = separator
      · subst hc
        have hlower : lowerFrom [] (cs ++ [separator]) = lowerFrom [] cs ++ [separator] :=
          lowerFrom_append_separator [] cs []
        rw [hlower, List.rdropWhile_concat_pos _ _ _ (by simp [isSeparator]),
          List.rdropWhile_concat_pos _ _ _ (by simp [isSeparator]), ih]
      · rw [List.rdropWhile_concat_neg _ _ _ (by simpa [isSeparator] using hc)]
        rcases List.eq_nil_or_concat' (lowerFrom [] (cs ++ [c])) with hlower | ⟨ds, d, hlower⟩
        · rw [hlower]
          rfl
        · have hd : d ≠ separator := by
            rintro rfl
            obtain ⟨front, hfront⟩ := lowerFrom_eq_concat_separator hlower
            obtain ⟨-, hlast⟩ := List.append_inj' hfront rfl
            exact hc (List.singleton_inj.1 hlast)
          rw [hlower, List.rdropWhile_concat_neg _ _ _ (by simpa [isSeparator] using hd)]

theorem lowercase_trimStart (s : String) :
    lowercase (trimStart isSeparator s) = trimStart isSeparator (lowercase s) := by
  rw [trimStart, trimStart, toList_lowercase, ← lowerFrom_dropWhile, lowercase,
    String.toList_ofList]

theorem lowercase_trimEnd (s : String) :
    lowercase (trimEnd isSeparator s) = trimEnd isSeparator (lowercase s) := by
  have hends := lowerFrom_rdropWhile s.toList
  unfold List.rdropWhile at hends
  rw [trimEnd, trimEnd, toList_lowercase, ← hends, lowercase, String.toList_ofList]

/-- Trimming separators commutes with taking the lower-case form. -/
theorem lowercase_trim (s : String) :
    lowercase (trim isSeparator s) = trim isSeparator (lowercase s) := by
  rw [trim, trim, lowercase_trimEnd, lowercase_trimStart]

end Rechristen.Text
