import Mathlib.Data.List.Nodup

/-!
# Lists with one element for each key

The registry, the table of declarations, the plan of moves and the queue of edits are all lists in
which an element is found by a key, and in which a new element takes the place of one with the same
key or else goes to the end.  This file says what such a replacement does to the keys and to what is
found, and what a list of replacements leaves: the last element of each key (`lastOfEach_append`).
-/

namespace Rechristen.Keyed

variable {α κ : Type} [DecidableEq κ] (keyOf : α → κ)

/-- The list with an element; an element with the same key gives way to it. -/
def upsert (xs : List α) (x : α) : List α :=
  if xs.any fun y => keyOf y = keyOf x then xs.map fun y => if keyOf y = keyOf x then x else y
  else xs ++ [x]

/-- The element of a key. -/
def find? (xs : List α) (key : κ) : Option α :=
  xs.find? fun x => keyOf x = key

variable {keyOf}

theorem find?_some_key {xs : List α} {key : κ} {x : α} (hfind : find? keyOf xs key = some x) :
    keyOf x = key := by
  simpa using List.find?_some hfind

theorem find?_some_mem {xs : List α} {key : κ} {x : α} (hfind : find? keyOf xs key = some x) :
    x ∈ xs :=
  List.mem_of_find?_eq_some hfind

theorem find?_eq_none_iff {xs : List α} {key : κ} :
    find? keyOf xs key = none ↔ key ∉ xs.map keyOf := by
  simp [find?]

/-- Where keys are told apart, every element is found. -/
theorem find?_of_mem {xs : List α} (hnodup : (xs.map keyOf).Nodup) {x : α} (hx : x ∈ xs) :
    find? keyOf xs (keyOf x) = some x := by
  cases hfind : find? keyOf xs (keyOf x) with
  | none => exact absurd (List.mem_map_of_mem hx) (find?_eq_none_iff.1 hfind)
  | some y =>
      have hsame : y = x := List.inj_on_of_nodup_map hnodup (find?_some_mem hfind) hx
        (find?_some_key hfind)
      rw [hsame]

/-! ## Replacing and adding -/

/-- Replacing an element keeps the keys; otherwise its key is new and comes last. -/
theorem map_upsert (xs : List α) (x : α) :
    (upsert keyOf xs x).map keyOf =
      if keyOf x ∈ xs.map keyOf then xs.map keyOf else xs.map keyOf ++ [keyOf x] := by
  have hany : (xs.any fun y => keyOf y = keyOf x) = true ↔ keyOf x ∈ xs.map keyOf := by simp
  unfold upsert
  by_cases hmem : keyOf x ∈ xs.map keyOf
  · rw [if_pos (hany.2 hmem), if_pos hmem, List.map_map]
    apply List.map_congr_left
    intro y _
    by_cases hy : keyOf y = keyOf x <;> simp [hy]
  · rw [if_neg (fun h => hmem (hany.1 h)), if_neg hmem]
    simp

theorem nodup_upsert {xs : List α} (hnodup : (xs.map keyOf).Nodup) (x : α) :
    ((upsert keyOf xs x).map keyOf).Nodup := by
  rw [map_upsert]
  split
  case isTrue => exact hnodup
  case isFalse hmem => exact List.nodup_append.2 ⟨hnodup, by simp, by grind⟩

theorem mem_upsert {xs : List α} {x y : α} (hy : y ∈ upsert keyOf xs x) :
    y = x ∨ y ∈ xs ∧ keyOf y ≠ keyOf x := by
  unfold upsert at hy
  split at hy
  case isTrue =>
    obtain ⟨z, hz, rfl⟩ := List.mem_map.1 hy
    by_cases hkey : keyOf z = keyOf x
    · exact Or.inl (if_pos hkey)
    · rw [if_neg hkey]
      exact Or.inr ⟨hz, hkey⟩
  case isFalse hany =>
    rcases List.mem_append.1 hy with hmem | hmem
    · refine Or.inr ⟨hmem, fun hkey => hany ?_⟩
      simpa using ⟨y, hmem, hkey⟩
    · exact Or.inl (by simpa using hmem)

theorem mem_upsert_iff {xs : List α} {x y : α} :
    y ∈ upsert keyOf xs x ↔ y = x ∨ y ∈ xs ∧ keyOf y ≠ keyOf x := by
  refine ⟨mem_upsert, fun hy => ?_⟩
  unfold upsert
  split
  case isTrue hany =>
    rcases hy with rfl | ⟨hmem, hkey⟩
    · obtain ⟨z, hz, hkey⟩ := List.any_eq_true.1 hany
      exact List.mem_map.2 ⟨z, hz, if_pos (of_decide_eq_true hkey)⟩
    · exact List.mem_map.2 ⟨y, hmem, if_neg hkey⟩
  case isFalse =>
    rcases hy with rfl | ⟨hmem, -⟩
    · exact List.mem_append_right xs (List.mem_singleton_self y)
    · exact List.mem_append_left [x] hmem

/-- The new element is found under its key, and nothing else changes. -/
theorem find?_upsert (xs : List α) (x : α) (key : κ) :
    find? keyOf (upsert keyOf xs x) key =
      if key = keyOf x then some x else find? keyOf xs key := by
  unfold upsert find?
  split
  case isTrue hany =>
    by_cases hkey : key = keyOf x
    · subst hkey
      induction xs with
      | nil => simp at hany
      | cons y rest ih =>
          by_cases hy : keyOf y = keyOf x
          · simp [hy]
          · have hrest : (rest.any fun z => keyOf z = keyOf x) = true := by simpa [hy] using hany
            simpa [hy] using ih hrest
    · -- Under another key nothing is replaced, whether or not there was something to replace.
      clear hany
      rw [if_neg hkey]
      induction xs with
      | nil => rfl
      | cons y rest ih =>
          by_cases hy : keyOf y = keyOf x
          · simpa [hy, Ne.symm hkey] using ih
          · simp only [List.map_cons, hy, if_false, List.find?_cons, ih]
  case isFalse hany =>
    have habsent : find? keyOf xs (keyOf x) = none := by
      rw [find?_eq_none_iff]
      simpa using hany
    rw [List.find?_append]
    by_cases hkey : key = keyOf x
    · subst hkey
      unfold find? at habsent
      simp [habsent]
    · simp [hkey, Ne.symm hkey]

/-! ## Changing and dropping elements under their keys -/

omit [DecidableEq κ] in
theorem nodup_filterMap {f : α → Option α} (hf : ∀ x y, f x = some y → keyOf y = keyOf x)
    {xs : List α} (hnodup : (xs.map keyOf).Nodup) : ((xs.filterMap f).map keyOf).Nodup := by
  refine hnodup.sublist ?_
  induction xs with
  | nil => exact List.Sublist.refl _
  | cons x rest ih =>
      have hrest := ih (List.nodup_cons.1 hnodup).2
      cases hx : f x with
      | none => simpa [List.filterMap_cons, hx] using hrest.cons (keyOf x)
      | some y => simpa [List.filterMap_cons, hx, hf x y hx] using hrest

/-- Under a key there is what became of the element under that key. -/
theorem find?_filterMap {f : α → Option α} (hf : ∀ x y, f x = some y → keyOf y = keyOf x)
    {xs : List α} (hnodup : (xs.map keyOf).Nodup) (key : κ) :
    find? keyOf (xs.filterMap f) key = (find? keyOf xs key).bind f := by
  induction xs with
  | nil => rfl
  | cons x rest ih =>
      obtain ⟨hfresh, hrest⟩ := List.nodup_cons.1 hnodup
      have hlater := ih hrest
      by_cases hkey : keyOf x = key
      · subst hkey
        -- No later element has the key: what is found under it is what becomes of this one.
        have habsent : find? keyOf rest (keyOf x) = none := find?_eq_none_iff.2 hfresh
        cases hx : f x with
        | none =>
            rw [List.filterMap_cons_none hx, hlater, habsent]
            simp [find?, hx]
        | some y =>
            rw [List.filterMap_cons_some hx]
            simp [find?, hf x y hx, hx]
      · cases hx : f x with
        | none =>
            rw [List.filterMap_cons_none hx, hlater]
            simp [find?, hkey]
        | some y =>
            have hy : keyOf y ≠ key := by rwa [hf x y hx]
            rw [List.filterMap_cons_some hx]
            simpa [find?, hkey, hy] using hlater

/-! ## The last element of each key -/

/-- The last element of each key, where the key first stands. -/
def lastOfEach (keyOf : α → κ) (xs : List α) : List α :=
  (xs.map keyOf).eraseDups.filterMap (find? keyOf xs.reverse)

theorem find?_reverse_append (xs : List α) (x : α) (key : κ) :
    find? keyOf (xs ++ [x]).reverse key =
      if keyOf x = key then some x else find? keyOf xs.reverse key := by
  unfold find?
  rw [List.reverse_append, List.reverse_singleton, List.singleton_append, List.find?_cons]
  by_cases hkey : keyOf x = key <;> simp [hkey]

theorem exists_find?_reverse {xs : List α} {key : κ} (hkey : key ∈ (xs.map keyOf).eraseDups) :
    ∃ x, find? keyOf xs.reverse key = some x ∧ keyOf x = key := by
  cases hfind : find? keyOf xs.reverse key with
  | none =>
      rw [find?_eq_none_iff, List.map_reverse, List.mem_reverse] at hfind
      exact absurd (List.mem_eraseDups.1 hkey) hfind
  | some x => exact ⟨x, rfl, find?_some_key hfind⟩

theorem map_lastOfEach (xs : List α) :
    (lastOfEach keyOf xs).map keyOf = (xs.map keyOf).eraseDups := by
  have hfound : ∀ key ∈ (xs.map keyOf).eraseDups,
      (find? keyOf xs.reverse key).map keyOf = some key := by
    intro key hkey
    obtain ⟨x, hfind, hx⟩ := exists_find?_reverse hkey
    rw [hfind, Option.map_some, hx]
  rw [lastOfEach, List.map_filterMap, List.filterMap_congr hfound, List.filterMap_some]

/-- One element more takes the place of the last one of its key. -/
theorem lastOfEach_append (xs : List α) (x : α) :
    lastOfEach keyOf (xs ++ [x]) = upsert keyOf (lastOfEach keyOf xs) x := by
  have hmem : (lastOfEach keyOf xs).any (fun y => keyOf y = keyOf x) = true ↔
      keyOf x ∈ xs.map keyOf := by
    rw [← List.mem_eraseDups, ← map_lastOfEach]
    simp
  -- A known key keeps its place among the keys, and a new one comes last.
  have hkeys : ((xs ++ [x]).map keyOf).eraseDups =
      (xs.map keyOf).eraseDups ++ if keyOf x ∈ xs.map keyOf then [] else [keyOf x] := by
    rw [List.map_append, List.eraseDups_append, List.map_singleton, List.removeAll]
    by_cases hx : keyOf x ∈ xs.map keyOf
    · rw [if_pos hx, List.filter_cons_of_neg (by simpa using hx)]
      rfl
    · rw [if_neg hx, List.filter_cons_of_pos (by simpa using hx)]
      rfl
  unfold upsert
  by_cases hx : keyOf x ∈ xs.map keyOf
  · -- The key is known: under it the new element is found, and under the others what was found
    -- before.
    rw [if_pos (hmem.2 hx), lastOfEach, hkeys, if_pos hx, List.append_nil, lastOfEach,
      List.map_filterMap]
    refine List.filterMap_congr fun key hkey => ?_
    obtain ⟨y, hfind, rfl⟩ := exists_find?_reverse hkey
    rw [find?_reverse_append, hfind, Option.map_some]
    by_cases hsame : keyOf x = keyOf y <;> simp [hsame, Ne.symm]
  · rw [if_neg fun hany => hx (hmem.1 hany), lastOfEach, hkeys, if_neg hx, List.filterMap_append]
    have hlast : find? keyOf (xs ++ [x]).reverse (keyOf x) = some x := by
      rw [find?_reverse_append, if_pos rfl]
    congr 1
    · refine List.filterMap_congr fun key hkey => ?_
      rw [find?_reverse_append, if_neg]
      rintro rfl
      exact hx (List.mem_eraseDups.1 hkey)
    · rw [List.filterMap_cons_some hlast, List.filterMap_nil]

end Rechristen.Keyed
