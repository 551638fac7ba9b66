import Rechristen.Proofs.Pass.References

/-!
# The last segment of a reference

A policy and the fix in the end replace the last segment of a reference that is no import, and
nothing else (`SameButLast`).  The last segment that the fix writes is the *ending* of the
reference: the one that the registry tells, or else the one that is there.

A reference that goes by the name of its class ends, up to letter case, like what it stands for
(`lowercase_short_meaning`).  So its ending depends only on where the registry leads from there
(`exists_ending`), whatever was written in the meantime.
-/

namespace Rechristen

open Name (separator)

namespace Name

theorem isCompound_cutLast (name : Name) :
    isCompound (Text.cutLast separator name).2 = false := by
  by_cases hmem : separator ∈ name.toList
  · obtain ⟨before, last, hsplit, hlast⟩ := Text.exists_split_last hmem
    rw [Text.cutLast_of_split hsplit hlast, isCompound_eq_false_iff, String.toList_ofList]
    exact hlast
  · rw [Text.cutLast_of_not_mem hmem, isCompound_eq_false_iff]
    exact hmem

/-- A name keeps its own last segment. -/
theorem withLast_short (name : Name) : name.withLast name.short = name := by
  have hself := withLast_self name
  have hshort := short_withLast (isCompound_cutLast name) name
  rw [hself] at hshort
  rw [hshort, hself]

theorem withLast_withLast {first : Name} (hfirst : first.isCompound = false) (name last : Name) :
    (name.withLast first).withLast last = name.withLast last := by
  by_cases hmem : separator ∈ name.toList
  · obtain ⟨before, old, hsplit, hold⟩ := Text.exists_split_last hmem
    have hmiddle := toList_withLast hsplit hold first
    rw [← String.toList_inj, toList_withLast hmiddle (isCompound_eq_false_iff.1 hfirst),
      toList_withLast hsplit hold]
  · have hsimple := isCompound_eq_false_iff.2 hmem
    rw [withLast_of_simple hsimple, withLast_of_simple hsimple, withLast_of_simple hfirst]

end Name

/-- A name with separators ends like what it stands for. -/
theorem Resolver.short_resolve (r : Resolver) {name : Name} (hcompound : name.isCompound = true) :
    (r.resolve name).short = name.short := by
  have hlast := Name.isCompound_short name
  have hresolve := r.resolve_withLast hcompound hlast
  rw [Name.withLast_short] at hresolve
  rw [hresolve, Name.short_withLast hlast]

namespace Reference

variable {references : List Reference} {site a b c : Reference}

/-! ## What a reference ends in -/

/-- The import ends like what it imports. -/
theorem short_imported (site : Reference) : site.imported.short = site.name.short := by
  have hlast := Name.isCompound_short site.name
  have himported := imported_withLast hlast (b := site) (Name.withLast_short site.name).symm rfl
  rw [himported, Name.short_withLast hlast]

/-- The reference goes by the name of its class: as a single segment it is no alias, and it is none
of the words that are never looked up. -/
structure ByName (references : List Reference) (site : Reference) : Prop where
  looked : site.name.isRelativeScope = false
  plain : site.name.isCompound = false →
    (Resolver.ofReferences site.space references).isAliased site.name = false

instance (references : List Reference) (site : Reference) : Decidable (site.ByName references) :=
  decidable_of_iff (_ ∧ _) ⟨fun h => ⟨h.1, h.2⟩, fun h => ⟨h.looked, h.plain⟩⟩

/-- A single segment that is no alias ends like what its binder imports. -/
theorem lowercase_short_bound {j : Nat} (hkind : site.kind ≠ .import_)
    (hsimple : site.name.isCompound = false) (hname : site.ByName references)
    (hbinder : site.binder? references = some j) :
    Text.lowercase (site.meaning references).short = Text.lowercase site.name.short := by
  have hplace := hbinder
  rw [binder?, if_neg hkind, bindable?_simple hsimple, Option.bind_some] at hplace
  obtain ⟨clause, hclause, -⟩ := bindingPlace?_import hplace
  have hbinding := binding?_eq references site.space site.name
  rw [hplace, Option.bind_some, hclause] at hbinding
  have himports := List.mem_reverse.1 (List.mem_of_find?_eq_some hbinding)
  have hbound := List.find?_some hbinding
  simp only [decide_eq_true_eq] at hbound
  have hfirst : site.name.first = site.name := by
    rw [Name.first, Text.cut_of_not_mem (Name.isCompound_eq_false_iff.1 hsimple)]
  -- Nobody binds the segment under an alias, so the binder does not either.
  have hnoAlias := List.any_eq_false.1 (hname.plain hsimple) clause himports
  rw [hfirst] at hnoAlias
  have hlocal : clause.localName = clause.name.short := by
    cases halias : clause.alias? with
    | none => rw [localName, halias, Option.getD_none]
    | some given => simp [halias, hbound] at hnoAlias
  rw [Resolver.boundBy, hlocal] at hbound
  rw [meaning_of_bound hsimple hbinder hclause, short_imported, hbound,
    (Name.parts_of_simple hsimple).2.2]

/-- **Endings and meanings.**  A reference that goes by the name of its class ends like what it
stands for, up to letter case. -/
theorem lowercase_short_meaning (hkind : site.kind ≠ .import_) (hname : site.ByName references) :
    Text.lowercase (site.meaning references).short = Text.lowercase site.name.short := by
  cases hcompound : site.name.isCompound with
  | true => rw [meaning, if_neg hkind, Resolver.short_resolve _ hcompound]
  | false =>
      cases hbinder : site.binder? references with
      | none =>
          rw [meaning_of_unbound hkind hcompound hbinder, Name.short_qualify hcompound,
            (Name.parts_of_simple hcompound).2.2]
      | some j => exact lowercase_short_bound hkind hcompound hname hbinder

/-- The last segment that a reference has when it is fixed. -/
def ending (registry : Registry) (references : List Reference) (site : Reference) : Name :=
  ((registry.lookup (site.meaning references)).map Name.short).getD site.name.short

/-- An ending is, up to letter case, that of the name to which the registry leads. -/
theorem exists_ending (registry : Registry) (hkind : site.kind ≠ .import_)
    (hname : site.ByName references) :
    ∃ target : Name, target.key = registry.present (site.meaning references).key ∧
      Text.lowercase (site.ending registry references) = Text.lowercase target.short := by
  unfold ending
  cases hlookup : registry.lookup (site.meaning references) with
  | none =>
      refine ⟨site.meaning references, ?_, (lowercase_short_meaning hkind hname).symm⟩
      rw [Registry.present_of_find?_none (Registry.lookup_eq_none_iff.1 hlookup)]
  | some target => exact ⟨target, Registry.key_of_lookup hlookup, rfl⟩

/-- References from which the registry leads to one name have one ending, up to letter case. -/
theorem lowercase_ending {registry : Registry} {others : List Reference} {other : Reference}
    (hkind : site.kind ≠ .import_) (hname : site.ByName references)
    (hkind' : other.kind ≠ .import_) (hname' : other.ByName others)
    (hleads : registry.present (other.meaning others).key =
      registry.present (site.meaning references).key) :
    Text.lowercase (other.ending registry others) =
      Text.lowercase (site.ending registry references) := by
  obtain ⟨target, hkey, hends⟩ := exists_ending registry hkind hname
  obtain ⟨target', hkey', hends'⟩ := exists_ending registry hkind' hname'
  rw [hends, hends']
  apply (Name.key_eq_iff.1 _).2
  rw [hkey, hkey', hleads]

/-! ## References that differ in the last segment -/

/-- The references differ at most in the last segment. -/
structure SameButLast (b a : Reference) : Prop where
  kind : a.kind = b.kind
  name : ∃ last : Name, last.isCompound = false ∧ a.name = b.name.withLast last

theorem SameButLast.refl (b : Reference) : SameButLast b b :=
  ⟨rfl, b.name.short, Name.isCompound_short b.name, (Name.withLast_short b.name).symm⟩

theorem SameButLast.withLast (hba : SameButLast b a) (last : Name) :
    a.name.withLast last = b.name.withLast last := by
  obtain ⟨first, hfirst, hname⟩ := hba.name
  rw [hname, Name.withLast_withLast hfirst]

theorem SameButLast.trans (hba : SameButLast b a) (hac : SameButLast a c) : SameButLast b c := by
  obtain ⟨last, hlast, hname⟩ := hac.name
  exact ⟨hac.kind.trans hba.kind, last, hlast, by rw [hname, hba.withLast]⟩

end Reference

namespace References

/-- What a fix comes to, for one reference. -/
structure Fixed (registry : Registry) (references : List Reference) (b a : Reference) : Prop where
  kind : a.kind = b.kind
  imported : b.kind = .import_ → a.imported.key = registry.present b.imported.key
  name : b.kind ≠ .import_ → b.ByName references →
    a.name = b.name.withLast (b.ending registry references)

theorem fixed_of_fix {registry : Registry} (htidy : registry.Tidy) {before after : Source}
    {count : Nat} {notes : Notes} (hfix : fix registry before = ⟨.ok count, (after, notes)⟩)
    {i : Nat} {b : Reference} (hb : before.references[i]? = some b) (hformed : WellFormed b) :
    ∃ a, after.references[i]? = some a ∧ Fixed registry before.references b a := by
  obtain ⟨a, ha, hword⟩ := (fix_ok hfix).exists_after hb
  rw [hb, Option.bind_some] at hword
  refine ⟨a, ha, hword.kind, fun hkind => ?_, fun hkind hname => ?_⟩
  · refine key_imported_fixed htidy hformed.group ?_ hword.group
    rw [hword.name, fixOf, hkind]
  · have hlooked : ¬(b.kind = .bare ∧ (b.name.isRelativeScope = true ∨
        (Resolver.ofReferences b.space before.references).isAliased b.name = true)) := by
      rintro ⟨hbare, hscope | haliased⟩
      · simp [hname.looked] at hscope
      · simp [hname.plain (hformed.bare hbare)] at haliased
    rw [hword.name, getD_fixOf htidy before.references hkind hformed.bare, if_neg hlooked,
      Reference.ending]
    cases registry.lookup (b.meaning before.references) with
    | none => exact (Name.withLast_short b.name).symm
    | some target => rfl

/-- The same for all files.  Without renames they stay as they are. -/
theorem fixed_of_fixAll {registry : Registry} (htidy : registry.Tidy)
    {sources afterwards : List Source} {count : Nat} {notes : Notes}
    (hfix : fixAll registry sources = ⟨.ok count, (afterwards, notes)⟩) {file : Nat}
    {before : Source} (hbefore : sources[file]? = some before) {i : Nat} {b : Reference}
    (hb : before.references[i]? = some b) (hformed : WellFormed b) :
    ∃ after a, afterwards[file]? = some after ∧ after.references[i]? = some a ∧
      Fixed registry before.references b a := by
  unfold fixAll at hfix
  split at hfix
  case isTrue hempty =>
    obtain ⟨-, hstate⟩ := Attempt.success_eq hfix
    obtain ⟨rfl, -⟩ := Prod.mk.inj hstate
    have hnone : ∀ name : Name, registry.find? name.key = none := by
      intro name
      rw [Registry.find?, List.eq_nil_of_length_eq_zero hempty]
      rfl
    refine ⟨before, b, hbefore, hb, rfl, fun _ => ?_, fun _ _ => ?_⟩
    · rw [Registry.present_of_find?_none (hnone _)]
    · rw [Reference.ending, Registry.lookup_eq_none_iff.2 (hnone _)]
      exact (Name.withLast_short b.name).symm
  case isFalse =>
    obtain ⟨after, n, told, hafter, hpass⟩ := Pass.overAll_ok hfix hbefore
    obtain ⟨a, ha, hfixed⟩ := fixed_of_fix htidy hpass hb hformed
    exact ⟨after, a, hafter, ha, hfixed⟩

end References

end Rechristen
