import Rechristen.Proofs.Registry.Replay

/-!
# Renames that have nothing to do with each other

Two renames are apart if neither old name and neither new name is one of the other's.  Then it does
not matter which of them is registered first: each is accepted or refused as if the other one had
not been there (`accepted_register_of_apart`), and the entries come out the same
(`entriesAfter_comm`), although one rename may redirect or drop entries that the other one finds.

Entries are looked at key by key here, as `find?` gives them, because their order in the registry is
the order of the renames.
-/

namespace Rechristen

/-- Neither name of one rename is a name of the other. -/
structure Renaming.Apart (v w : Renaming) : Prop where
  old_old : v.old.key ≠ w.old.key
  new_new : v.new.key ≠ w.new.key
  new_old : v.new.key ≠ w.old.key
  old_new : v.old.key ≠ w.new.key

theorem Renaming.Apart.symm {v w : Renaming} (h : v.Apart w) : w.Apart v :=
  ⟨h.old_old.symm, h.new_new.symm, h.old_new.symm, h.new_old.symm⟩

/-- The rename between the names without leading separators. -/
def Renaming.normal (v : Renaming) : Renaming :=
  ⟨v.old.normalize, v.new.normalize⟩

@[simp] theorem Renaming.key_old_normal (v : Renaming) : v.normal.old.key = v.old.key :=
  Name.key_normalize v.old

@[simp] theorem Renaming.key_new_normal (v : Renaming) : v.normal.new.key = v.new.key :=
  Name.key_normalize v.new

theorem Renaming.Apart.normal_left {v w : Renaming} (h : v.Apart w) : v.normal.Apart w := by
  constructor
  · simpa using h.old_old
  · simpa using h.new_new
  · simpa using h.new_old
  · simpa using h.old_new

namespace Registry

variable {r : Registry} {v w : Renaming}

/-- The entries by key after a rename was accepted. -/
def entriesAfter (v : Renaming) (entries : Name.Key → Option Renaming) (key : Name.Key) :
    Option Renaming :=
  if v.old.key = v.new.key then entries key
  else if key = v.old.key then some v
  else (entries key).bind (advance v.old v.new)

theorem WellFormed.find?_register (hr : r.WellFormed) {old new : Name}
    (haccepted : (r.register old new).accepted = true) (key : Name.Key) :
    (r.register old new).registry.find? key =
      entriesAfter (Renaming.normal ⟨old, new⟩) r.find? key := by
  unfold entriesAfter
  rw [Renaming.key_old_normal, Renaming.key_new_normal]
  rcases register_cases r old new with ⟨hsame, -, hkept⟩ | ⟨-, hrefused, -⟩ |
    ⟨hdiffer, -, -, hrecorded⟩
  · rw [hkept, if_pos hsame]
  · rw [haccepted] at hrefused
    cases hrefused
  · rw [hrecorded, if_neg hdiffer, hr.find?_record, Name.key_normalize]
    rfl

theorem WellFormed.mem_iff (hr : r.WellFormed) {e : Renaming} :
    e ∈ r.entries ↔ r.find? e.old.key = some e :=
  ⟨fun he => Keyed.find?_of_mem hr.keys_nodup he, find?_mem⟩

/-- A rename is accepted if its names have one key, or if the old name leads nowhere else and no
other name leads to the new one. -/
theorem WellFormed.accepted_register_iff (hr : r.WellFormed) (old new : Name) :
    (r.register old new).accepted = true ↔
      old.key = new.key ∨
        (∀ e, r.find? old.key = some e → e.new.key = new.key) ∧
        ∀ key e, r.find? key = some e → e.new.key = new.key → key = old.key := by
  rw [← Bool.not_eq_false, refused_register_iff, not_and_or, not_or, not_not]
  refine or_congr_right
    (and_congr ⟨fun hnone e hfind => ?_, ?_⟩ ⟨fun hnone key e hfind hnew => ?_, ?_⟩)
  · by_contra hother
    exact hnone ⟨e.new, lookup_of_find? hfind, hother⟩
  · rintro hleads ⟨target, hlookup, hother⟩
    obtain ⟨e, hfind, rfl⟩ := Option.map_eq_some_iff.1 hlookup
    exact hother (hleads e hfind)
  · by_contra hother
    rw [← find?_key hfind] at hother
    exact hnone ⟨e, find?_mem hfind, hother, hnew⟩
  · rintro hfree ⟨e, he, hother, hnew⟩
    exact hother (hfree e.old.key e (hr.mem_iff.1 he) hnew)

/-! ## Two renames that are apart -/

theorem advance_of_ne {old new : Name} {e : Renaming} (hother : e.new.key ≠ old.key) :
    advance old new e = some e := by
  rw [advance, if_neg hother]

theorem advance_comm (h : v.Apart w) (e : Renaming) :
    (advance v.old v.new e).bind (advance w.old w.new) =
      (advance w.old w.new e).bind (advance v.old v.new) := by
  by_cases hv : e.new.key = v.old.key
  · -- The entry leads to one old name, so not to the other; nor does it afterwards.
    have hw : e.new.key ≠ w.old.key := fun hw => h.old_old (hv.symm.trans hw)
    rw [advance_of_ne hw, Option.bind_some, advance, if_pos hv]
    split
    · rfl
    · rw [Option.bind_some]
      exact advance_of_ne h.new_old
  · rw [advance_of_ne hv, Option.bind_some]
    cases hw : advance w.old w.new e with
    | none => rfl
    | some f =>
        rcases advance_cases hw with ⟨rfl, -⟩ | ⟨rfl, -⟩
        · rw [Option.bind_some, advance_of_ne hv]
        · rw [Option.bind_some]
          exact (advance_of_ne (e := ⟨e.old, w.new⟩) h.symm.new_old).symm

/-- **Commuting.**  The entries do not depend on which of two renames comes first. -/
theorem entriesAfter_comm (h : v.Apart w) (entries : Name.Key → Option Renaming) :
    entriesAfter w (entriesAfter v entries) = entriesAfter v (entriesAfter w entries) := by
  funext key
  unfold entriesAfter
  by_cases hvsame : v.old.key = v.new.key
  · simp only [hvsame, if_true]
  by_cases hwsame : w.old.key = w.new.key
  · simp only [hwsame, if_true]
  simp only [if_neg hvsame, if_neg hwsame]
  by_cases hv : key = v.old.key
  · have hw : key ≠ w.old.key := fun hw => h.old_old (hv.symm.trans hw)
    rw [if_neg hw, if_pos hv, if_pos hv, Option.bind_some, advance_of_ne h.new_old]
  by_cases hw : key = w.old.key
  · rw [if_pos hw, if_neg hv, if_pos hw, Option.bind_some, advance_of_ne h.symm.new_old]
  -- The key is the old name of neither, so both renames only redirect what is found under it.
  rw [if_neg hw, if_neg hv, if_neg hv, if_neg hw, Option.bind_assoc, Option.bind_assoc]
  cases entries key with
  | none => simp only [Option.bind_none]
  | some e => simpa only [Option.bind_some] using advance_comm h e

/-- The entries that lead to the new name of `w` are those that did so before. -/
theorem entriesAfter_leads_iff (h : v.Apart w) {entries : Name.Key → Option Renaming}
    (hleads : v.old.key ≠ v.new.key → ∀ e, entries v.old.key = some e → e.new.key = v.new.key)
    (key : Name.Key) (e : Renaming) :
    entriesAfter v entries key = some e ∧ e.new.key = w.new.key ↔
      entries key = some e ∧ e.new.key = w.new.key := by
  unfold entriesAfter
  by_cases hsame : v.old.key = v.new.key
  · rw [if_pos hsame]
  rw [if_neg hsame]
  by_cases hkey : key = v.old.key
  · subst hkey
    rw [if_pos rfl]
    -- The old name of `v` leads to the new name of `v`, before and after.
    refine iff_of_false ?_ ?_
    · rintro ⟨⟨rfl⟩, hnew⟩
      exact h.new_new hnew
    · rintro ⟨hfind, hnew⟩
      exact h.new_new ((hleads hsame e hfind).symm.trans hnew)
  rw [if_neg hkey]
  refine and_congr_left fun hnew => ?_
  constructor
  · intro hafter
    obtain ⟨f, hfind, hadvance⟩ := Option.bind_eq_some_iff.1 hafter
    rcases advance_cases hadvance with ⟨rfl, -⟩ | ⟨rfl, -⟩
    · exact hfind
    · exact absurd hnew h.new_new
  · intro hfind
    rw [hfind, Option.bind_some]
    exact advance_of_ne fun hled => h.old_new (hled.symm.trans hnew)

/-- The old name of `w` leads elsewhere if it did before. -/
theorem entriesAfter_old_iff (h : v.Apart w) {entries : Name.Key → Option Renaming}
    (hkeyed : ∀ key e, entries key = some e → e.old.key = key) :
    (∀ e, entriesAfter v entries w.old.key = some e → e.new.key = w.new.key) ↔
      ∀ e, entries w.old.key = some e → e.new.key = w.new.key := by
  unfold entriesAfter
  by_cases hsame : v.old.key = v.new.key
  · rw [if_pos hsame]
  rw [if_neg hsame, if_neg h.old_old.symm]
  cases hfind : entries w.old.key with
  | none => simp
  | some e =>
      rw [Option.bind_some]
      by_cases hled : e.new.key = v.old.key
      · -- It led to the old name of `v` and leads to the new one now.
        have hback : e.old.key ≠ v.new.key := by
          rw [hkeyed _ e hfind]
          exact h.new_old.symm
        rw [advance, if_pos hled, if_neg hback]
        refine iff_of_false ?_ ?_
        · intro hleads
          exact h.new_new (hleads ⟨e.old, v.new⟩ rfl)
        · intro hleads
          exact h.old_new (hled.symm.trans (hleads e rfl))
      · rw [advance_of_ne hled]

/-- **Independence.**  A rename is accepted after another one if and only if it was before. -/
theorem WellFormed.accepted_register_of_apart (hr : r.WellFormed) {old new old' new' : Name}
    (h : Renaming.Apart ⟨old, new⟩ ⟨old', new'⟩)
    (haccepted : (r.register old new).accepted = true) :
    ((r.register old new).registry.register old' new').accepted = true ↔
      (r.register old' new').accepted = true := by
  have hfind : (r.register old new).registry.find? =
      entriesAfter (Renaming.normal ⟨old, new⟩) r.find? := by
    funext key
    exact hr.find?_register haccepted key
  rw [(hr.register old new).accepted_register_iff, hr.accepted_register_iff, hfind,
    entriesAfter_old_iff h.normal_left fun _ _ => find?_key]
  refine or_congr_right (and_congr_right fun _ => forall₂_congr fun key e => ?_)
  rw [← and_imp, ← and_imp, entriesAfter_leads_iff h.normal_left]
  intro hdiffer e
  rw [Renaming.key_old_normal, Renaming.key_new_normal] at *
  exact (((hr.accepted_register_iff old new).1 haccepted).resolve_left hdiffer).1 e

end Registry

end Rechristen
