import Rechristen.DeclarationTable
import Rechristen.Proofs.Keyed

/-!
# What the table finds

One lemma for each way the table changes.  Entering a declaration changes what is found under its
own key only; renaming one also clears the key it was found under before.
-/

namespace Rechristen.DeclarationTable

theorem find?_eq (t : DeclarationTable) (key : Name.Key) :
    t.find? key = (Keyed.find? Prod.fst t.byName key).map Prod.snd := by
  unfold find?
  induction t.byName with
  | nil => rfl
  | cons e rest ih =>
      obtain ⟨first, id⟩ := e
      by_cases hkey : first = key
      · subst hkey
        simp [Keyed.find?]
      · have hother : (key == first) = false := by simpa using Ne.symm hkey
        rw [List.lookup_cons, hother]
        simpa [Keyed.find?, hkey] using ih

theorem putKey_eq (entries : List (Name.Key × DeclarationId)) (key : Name.Key)
    (id : DeclarationId) : putKey entries key id = Keyed.upsert Prod.fst entries (key, id) := rfl

theorem find?_putKey (entries : List (Name.Key × DeclarationId)) (key : Name.Key)
    (id : DeclarationId) (other : Name.Key) :
    Keyed.find? Prod.fst (putKey entries key id) other =
      if other = key then some (key, id) else Keyed.find? Prod.fst entries other :=
  Keyed.find?_upsert entries (key, id) other

theorem find?_enter (t : DeclarationTable) (id : DeclarationId) (d : Declaration)
    (key : Name.Key) :
    (t.enter id d).find? key = if key = d.key then some id else t.find? key := by
  rw [find?_eq, find?_eq, enter, find?_putKey]
  split <;> rfl

private theorem find?_filter_ne (entries : List (Name.Key × DeclarationId)) (old key : Name.Key) :
    Keyed.find? Prod.fst (entries.filter fun e => e.1 ≠ old) key =
      if key = old then none else Keyed.find? Prod.fst entries key := by
  induction entries with
  | nil => simp [Keyed.find?]
  | cons e rest ih =>
      unfold Keyed.find? at ih ⊢
      obtain ⟨first, id⟩ := e
      by_cases hold : first = old
      · by_cases hkey : key = old
        · simp [hkey]
        · simpa [hold, hkey, Ne.symm hkey] using ih
      · by_cases hkey : first = key
        · subst hkey
          simp [hold]
        · simpa [hold, hkey] using ih

/-- A renamed declaration is found under its new key and no longer under its old one. -/
theorem find?_rename (t : DeclarationTable) (old : Name) (id : DeclarationId) (d : Declaration)
    (key : Name.Key) :
    (t.rename old id d).find? key =
      if key = d.key then some id
      else if t.get? old = some id ∧ key = old.key then none else t.find? key := by
  rw [find?_eq, rename, find?_putKey]
  by_cases hnew : key = d.key
  · simp [hnew]
  · rw [if_neg hnew, if_neg hnew, find?_eq]
    by_cases hheld : t.get? old = some id
    · rw [if_pos hheld, find?_filter_ne]
      by_cases hold : key = old.key <;> simp [hheld, hold]
    · simp [hheld]

/-! ## The entries themselves -/

/-- Where keys are told apart, a declaration is found under the key it is entered under. -/
theorem find?_of_mem {t : DeclarationTable} (hnodup : (t.byName.map Prod.fst).Nodup)
    {key : Name.Key} {id : DeclarationId} (hmem : (key, id) ∈ t.byName) :
    t.find? key = some id := by
  rw [find?_eq, Keyed.find?_of_mem hnodup hmem, Option.map_some]

theorem mem_enter_iff {t : DeclarationTable} {id : DeclarationId} {d : Declaration}
    {e : Name.Key × DeclarationId} :
    e ∈ (t.enter id d).byName ↔ e = (d.key, id) ∨ e ∈ t.byName ∧ e.1 ≠ d.key := by
  rw [enter, putKey_eq, Keyed.mem_upsert_iff]

theorem nodup_enter {t : DeclarationTable} (hnodup : (t.byName.map Prod.fst).Nodup)
    (id : DeclarationId) (d : Declaration) : ((t.enter id d).byName.map Prod.fst).Nodup :=
  Keyed.nodup_upsert hnodup (d.key, id)

theorem mem_rename_iff {t : DeclarationTable} {old : Name} {id : DeclarationId} {d : Declaration}
    {e : Name.Key × DeclarationId} :
    e ∈ (t.rename old id d).byName ↔
      e = (d.key, id) ∨
        e ∈ t.byName ∧ ¬(t.get? old = some id ∧ e.1 = old.key) ∧ e.1 ≠ d.key := by
  rw [rename, putKey_eq, Keyed.mem_upsert_iff]
  refine or_congr_right ?_
  by_cases hheld : t.get? old = some id
  · simp [hheld, and_assoc]
  · simp [hheld]

theorem nodup_rename {t : DeclarationTable} (hnodup : (t.byName.map Prod.fst).Nodup) (old : Name)
    (id : DeclarationId) (d : Declaration) :
    ((t.rename old id d).byName.map Prod.fst).Nodup := by
  refine Keyed.nodup_upsert ?_ (d.key, id)
  split
  · exact hnodup.sublist (List.filter_sublist.map Prod.fst)
  · exact hnodup

/-! ## Rivals -/

theorem rival?_eq_none_iff {t : DeclarationTable} {name : Name} {id : DeclarationId} :
    t.rival? name id = none ↔ ∀ other, t.find? name.key = some other → other = id := by
  unfold rival? get?
  cases hfind : t.find? name.key with
  | none => simp
  | some other => simp [Option.filter_some]

end Rechristen.DeclarationTable
