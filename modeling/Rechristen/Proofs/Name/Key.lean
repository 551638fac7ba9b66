import Rechristen.Name
import Mathlib.Data.List.DropRight

/-!
# Keys of names

Two names with one key name one class.  Leading separators do not count for the key, so the
registry and the table, which strip them, lose nothing.
-/

namespace Rechristen.Name

/-- A short name: not empty and without separators. -/
structure IsShort (name : Name) : Prop where
  nonempty : name ≠ ""
  simple : name.isCompound = false

instance (name : Name) : Decidable name.IsShort :=
  decidable_of_iff (name ≠ "" ∧ name.isCompound = false)
    ⟨fun h => ⟨h.1, h.2⟩, fun h => ⟨h.nonempty, h.simple⟩⟩

@[simp] theorem normalize_normalize (name : Name) : name.normalize.normalize = name.normalize := by
  simp [normalize, Text.trimStart, List.dropWhile_idempotent]

@[simp] theorem key_normalize (name : Name) : name.normalize.key = name.key := by
  simp [key]

theorem toList_normalize (name : Name) :
    name.normalize.toList = name.toList.dropWhile isSeparator := by
  simp [normalize, Text.trimStart]

/-- Only separators are lost, so a name with any other character is not empty. -/
theorem normalize_ne_empty {name : Name} {c : Char} (hc : c ∈ name.toList)
    (hother : isSeparator c = false) : name.normalize ≠ "" := by
  intro hempty
  have hnil : name.toList.dropWhile isSeparator = [] := by
    rw [← toList_normalize, hempty]
    rfl
  have hall := List.dropWhile_eq_nil_iff.1 hnil c hc
  simp [hother] at hall

theorem toList_qualify (space short : Name) :
    ∃ before, (qualify space short).toList = before ++ short.toList := by
  unfold qualify
  dsimp only
  split
  · exact ⟨[], rfl⟩
  · exact ⟨_, by rw [String.toList_append]⟩

/-- A class with a short name has a name, in whatever namespace it lives. -/
theorem IsShort.normalize_qualify_ne_empty {short : Name} (hshort : short.IsShort) (space : Name) :
    (qualify space short).normalize ≠ "" := by
  obtain ⟨c, hc⟩ : ∃ c, c ∈ short.toList := by
    apply List.exists_mem_of_ne_nil
    intro hnil
    exact hshort.nonempty (String.toList_eq_nil_iff.1 hnil)
  have hother : isSeparator c = false := by
    have hsimple := hshort.simple
    simp only [isCompound, List.contains_eq_mem, decide_eq_false_iff_not] at hsimple
    simp only [isSeparator, beq_eq_false_iff_ne]
    exact fun hseparator => hsimple (hseparator ▸ hc)
  obtain ⟨before, hbefore⟩ := toList_qualify space short
  exact normalize_ne_empty (c := c) (by rw [hbefore]; exact List.mem_append_right _ hc) hother

end Rechristen.Name
