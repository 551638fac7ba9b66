import Rechristen.Proofs.Reference.Meaning
import Rechristen.Proofs.Registry.Spaces
import Rechristen.Proofs.Source.Rewording

/-!
# References fixed in the end

When all declarations have their names, the references of every file are brought up to date with the
registry.  A reference that keeps its binding then stands for what the registry tells of what it
stood for before (`meaning_fixed`).

The delicate case is an import in a group: what is written there is what remains of the new name
after the beginning of the group, counted in characters.  The count is right because the new name
lies in the namespace of the old one, unless a letter of the group grows in lower case.
-/

namespace Rechristen

open Name (separator)

/-- A pass over files that succeeds was made over each of them. -/
theorem Pass.overAll_ok {pass : Pass} {sources afterwards : List Source} {count : Nat}
    {notes : Notes} (hover : pass.overAll sources = ⟨.ok count, (afterwards, notes)⟩)
    {file : Nat} {source : Source} (hsource : sources[file]? = some source) :
    ∃ after n told, afterwards[file]? = some after ∧ pass source = ⟨.ok n, (after, told)⟩ := by
  induction sources generalizing file afterwards count notes with
  | nil => simp at hsource
  | cons first rest ih =>
      rw [overAll] at hover
      generalize hhead : pass first = head at hover
      obtain ⟨result, first', told⟩ := head
      cases result with
      | error cause => exact absurd hover Attempt.failure_ne
      | ok n =>
          dsimp only at hover
          generalize htail : overAll pass rest = tail at hover
          obtain ⟨result, rest', later⟩ := tail
          cases result with
          | error cause => simp [Except.map] at hover
          | ok m =>
              obtain ⟨-, hstate⟩ := Attempt.success_eq hover
              obtain ⟨rfl, -⟩ := Prod.mk.inj hstate
              cases file with
              | zero =>
                  obtain rfl : first = source := by simpa using hsource
                  exact ⟨first', n, told, rfl, hhead⟩
              | succ file => exact ih htail hsource

namespace References

/-- The text of a reference after a fix. -/
theorem getD_ofText (written text : Name) :
    (Fix.ofText written text).name?.getD written = text := by
  unfold Fix.ofText
  split
  case isTrue hsame => exact hsame.symm
  case isFalse => rfl

/-! ## Imports -/

theorem key_leading (name : Name) : Name.key (String.singleton separator ++ name) = name.key := by
  have hnormal : Name.normalize (String.singleton separator ++ name) = name.normalize := by
    rw [← String.toList_inj, Name.toList_normalize, Name.toList_normalize]
    simp [Name.isSeparator]
  rw [Name.key, Name.key, hnormal]

/-- The new name of what is imported in a group begins like the group, up to letter case, and what
remains is a name of its own. -/
theorem exists_remainder {group : Name} (hgroup : Text.trim Name.isSeparator group ≠ "")
    {written new : Name} (hnormal : new.normalize = new)
    (hspace : new.space.key = (Name.qualify group written.normalize).space.key) :
    ∃ front remainder : Name, new = front ++ String.singleton separator ++ remainder ∧
      Text.lowerFrom [] front.toList =
        Text.lowerFrom [] (Text.trim Name.isSeparator group).toList ∧
      remainder.normalize = remainder := by
  -- The old name with the last segment of the new one is the new name, up to letter case.
  have hlast := Name.isCompound_short new
  have hkey := Name.key_withLast_short hspace
  rw [Name.qualify_of_trim hgroup, Name.withLast_join, Name.key_inj, Name.toList_normalize_join,
    Name.normalize_trim, if_neg hgroup, Text.lowerFrom_append_separator, hnormal] at hkey
  obtain ⟨front, remainder, hsplit, hfront, hremainder⟩ :=
    Text.lowerFrom_eq_append_separator hkey.symm
  refine ⟨String.ofList front, String.ofList remainder, ?_, by simpa using hfront, ?_⟩
  · rw [← String.toList_inj, hsplit]
    simp
  · apply Name.normalize_eq_self
    intro rest hrest
    rw [String.toList_ofList] at hrest
    rw [hrest, ← List.nil_append (separator :: rest), Text.lowerFrom_append_separator] at hremainder
    obtain ⟨before, tail, hwritten, hbefore, -⟩ :=
      Text.lowerFrom_eq_append_separator hremainder.symm
    rw [← Name.normalize_withLast hlast] at hwritten
    obtain rfl : before = [] := Text.lowerFrom_eq_nil_iff.1 hbefore
    exact Name.normalize_ne_cons _ _ hwritten

/-- What remains is found by counting characters. -/
theorem dropStart_eq_remainder {front remainder group new : Name}
    (hnew : new = front ++ String.singleton separator ++ remainder)
    (hfront : Text.lowerFrom [] front.toList = Text.lowerFrom [] group.toList)
    (hplain : 'İ' ∉ group.toList) (hundotted : Text.dotAbove ∉ group.toList) :
    Text.dropStart new (group.length + 1) = remainder := by
  have hsplit : new.toList = front.toList ++ separator :: remainder.toList := by
    rw [hnew]
    simp
  have hlength := Text.length_eq_of_lowerFrom hfront hplain hundotted
  rw [Text.dropStart, hsplit, ← String.length_toList, ← hlength, ← List.drop_drop,
    List.drop_left]
  simp

/-- A new name that begins like a group is found to do so. -/
theorem begins_group {front remainder group new : Name}
    (hnew : new = front ++ String.singleton separator ++ remainder)
    (hfront : Text.lowerFrom [] front.toList = Text.lowerFrom [] group.toList)
    (hnormal : new.normalize = new) (hgroup : group.normalize = group) :
    Text.begins new.key.text (group.key.text ++ String.singleton separator) = true := by
  have hsplit : new.toList = front.toList ++ separator :: remainder.toList := by
    rw [hnew]
    simp
  rw [Text.begins, Name.key, Name.key, hnormal, hgroup, Text.lowercase, Text.lowercase, hsplit,
    Text.lowerFrom_append_separator, hfront]
  simp

/-- The group and what remains make up the new name again, up to letter case. -/
theorem key_join_remainder {front remainder group new : Name}
    (hnew : new = front ++ String.singleton separator ++ remainder)
    (hfront : Text.lowerFrom [] front.toList = Text.lowerFrom [] group.toList)
    (hnormal : new.normalize = new) (hgroup : group.normalize = group) :
    Name.key (group ++ String.singleton separator ++ remainder) = new.key := by
  have hfrontNormal : front.normalize = front := by
    apply Name.normalize_eq_self
    intro rest hrest
    have hchars : new.normalize.toList = separator :: (rest ++ separator :: remainder.toList) := by
      rw [hnormal, hnew]
      simp [hrest]
    exact Name.normalize_ne_cons _ _ hchars
  have hkey : group.key = front.key := by
    rw [Name.key_inj, hgroup, hfrontNormal, hfront]
  rw [hnew]
  exact Name.key_join_congr hkey remainder

/-- What a group must be like that an import stands in: it has a namespace before the braces,
spelled so that characters can be counted in lower case. -/
def GroupSpelled (site : Reference) : Prop :=
  ∀ group ∈ site.group?, Text.trim Name.isSeparator group ≠ "" ∧ 'İ' ∉ group.toList ∧
    Text.dotAbove ∉ group.toList

instance (site : Reference) : Decidable (GroupSpelled site) :=
  inferInstanceAs (Decidable (∀ group ∈ site.group?, _))

/-- A fixed import imports what the registry tells of what it imported before. -/
theorem key_imported_fixed {registry : Registry} (htidy : registry.Tidy) {b a : Reference}
    (hspelled : GroupSpelled b) (hname : a.name = (fixImport registry b).name?.getD b.name)
    (hgroup : a.group = b.group) : a.imported.key = registry.present b.imported.key := by
  unfold fixImport at hname
  cases hlookup : registry.lookup b.imported with
  | none =>
      rw [hlookup] at hname
      rw [Reference.imported_congr hname hgroup,
        Registry.present_of_find?_none (Registry.lookup_eq_none_iff.1 hlookup)]
  | some new =>
      rw [hlookup] at hname
      dsimp only at hname
      rw [← Registry.key_of_lookup hlookup]
      have hspace := htidy.space_of_lookup hlookup
      have hnormal := htidy.normal_of_lookup hlookup
      have hgroup : a.group? = b.group? := by rw [Reference.group?, hgroup, Reference.group?]
      rw [Reference.imported, hgroup]
      cases hin : b.group? with
      | none =>
          rw [hin] at hname
          dsimp only at hname ⊢
          rw [Name.key_normalize]
          split at hname
          · rw [hname, getD_ofText, key_leading]
          · rw [hname, getD_ofText]
      | some group =>
          obtain ⟨hmore, hplain, hundotted⟩ := hspelled group hin
          rw [Reference.imported, hin] at hspace
          rw [hin] at hname
          dsimp only at hname hspace ⊢
          -- The new name lies in the namespace of the group, so that a rest of it is left to be
          -- written.
          obtain ⟨front, remainder, hnew, hfront, hremainder⟩ :=
            exists_remainder hmore hnormal hspace
          have hnormalGroup := Name.normalize_trim group
          rw [if_pos (begins_group hnew hfront hnormal hnormalGroup), getD_ofText,
            dropStart_eq_remainder hnew hfront
              (fun hmem => hplain (Name.toList_trim_subset group hmem))
              (fun hmem => hundotted (Name.toList_trim_subset group hmem))] at hname
          rw [hname, hremainder, Name.qualify_of_trim hmore]
          exact key_join_remainder hnew hfront hnormal hnormalGroup

/-! ## Other references -/

/-- The name of a reference that is no import after it was fixed.  A single segment that is an alias
stays; any other name that the registry knows gets the new last segment. -/
theorem getD_fixOf {registry : Registry} (htidy : registry.Tidy) (references : List Reference)
    {b : Reference} (hkind : b.kind ≠ .import_)
    (hbare : b.kind = .bare → b.name.isCompound = false) :
    (fixOf registry (fun space => Resolver.ofReferences space references) b).name?.getD b.name =
      if b.kind = .bare ∧ (b.name.isRelativeScope = true ∨
          (Resolver.ofReferences b.space references).isAliased b.name = true) then b.name
      else ((registry.lookup (b.meaning references)).map fun target =>
        b.name.withLast target.short).getD b.name := by
  rw [Reference.meaning, if_neg hkind, fixOf]
  cases hb : b.kind with
  | import_ => exact absurd hb hkind
  | bare =>
      dsimp only
      rw [fixBare]
      simp only [Bool.or_eq_true, true_and]
      split
      · rfl
      · cases registry.lookup ((Resolver.ofReferences b.space references).resolve b.name) with
        | none => rfl
        | some target =>
            dsimp only
            rw [getD_ofText, Option.map_some, Option.getD_some, Name.withLast_of_simple (hbare hb)]
  | qualified =>
      dsimp only
      rw [fixQualified, if_neg (by simp)]
      cases hlookup :
          registry.lookup ((Resolver.ofReferences b.space references).resolve b.name) with
      | none => rfl
      | some target =>
          dsimp only
          rw [if_neg (by simp [htidy.space_of_lookup hlookup]), Option.map_some, Option.getD_some]
          split
          case isTrue hsame => rw [hsame, Name.withLast_self]; rfl
          case isFalse => rfl

/-! ## Files -/

/-- A reference as it is read from a file: a bare name is a single segment, and a group begins with
a namespace. -/
structure WellFormed (site : Reference) : Prop where
  bare : site.kind = .bare → site.name.isCompound = false
  group : GroupSpelled site

instance (site : Reference) : Decidable (WellFormed site) :=
  decidable_of_iff ((site.kind = .bare → site.name.isCompound = false) ∧ GroupSpelled site)
    ⟨fun h => ⟨h.1, h.2⟩, fun h => ⟨h.bare, h.group⟩⟩

/-- **References fixed in the end.**  A reference that keeps its binding stands for what the
registry tells of what it stood for before. -/
theorem meaning_fixed {registry : Registry} (htidy : registry.Tidy) {before after : Source}
    {count : Nat} {notes : Notes} (hfix : fix registry before = ⟨.ok count, (after, notes)⟩)
    (hformed : ∀ b ∈ before.references, WellFormed b) {i : Nat} {b a : Reference}
    (hb : before.references[i]? = some b) (ha : after.references[i]? = some a)
    (hkeeps : b.KeepsBinding before.references after.references a) :
    (a.meaning after.references).key = registry.present (b.meaning before.references).key := by
  have hreworded : ∀ {place : Nat} {b a : Reference}, before.references[place]? = some b →
      after.references[place]? = some a → Reference.Reworded
        (fixOf registry (fun space => Resolver.ofReferences space before.references) b).name?
        b a := by
    intro place b a hb ha
    have hplace := (fix_ok hfix).each place b a hb ha
    rwa [hb, Option.bind_some] at hplace
  have hword := hreworded hb ha
  have hbare := (hformed b (List.mem_of_getElem? hb)).bare
  refine Reference.meaning_step (fun old new => new = registry.present old) hb ha hword.kind
    hword.space ?_ hkeeps ?_ ?_
  · intro hkind
    rw [hword.kind] at hkind
    rw [hword.name, getD_fixOf htidy before.references hkind hbare]
    split
    · rfl
    · cases registry.lookup (b.meaning before.references) with
      | none => rfl
      | some target => exact Name.isCompound_withLast (Name.isCompound_short target)
  · -- The binder is an import, and imports follow the registry.
    intro clause clause' hclause hclause' hkind
    have hclauseWord := hreworded hclause hclause'
    refine key_imported_fixed htidy (hformed clause (List.mem_of_getElem? hclause)).group ?_
      hclauseWord.group
    rw [hclauseWord.name, fixOf, hkind]
  · intro hkind hself
    obtain ⟨hscope, -⟩ := hkeeps.resolve_left hkind
    -- A reference that no import binds is not read through an alias, so it is respelled.
    have hnoAlias : ¬(b.kind = .bare ∧ (b.name.isRelativeScope = true ∨
        (Resolver.ofReferences b.space before.references).isAliased b.name = true)) := by
      rintro ⟨hb', hscope' | haliased⟩
      · simp [hscope] at hscope'
      · have hunbound := Reference.unbound_of_decider hb hkind (hbare hb') hself
        simp [Reference.isAliased_of_unbound hkind (hbare hb') hunbound] at haliased
    have hname := hword.name
    rw [getD_fixOf htidy before.references hkind hbare, if_neg hnoAlias] at hname
    cases hlookup : registry.lookup (b.meaning before.references) with
    | none =>
        left
        rw [hlookup] at hname
        exact ⟨hname, (Registry.present_of_find?_none (Registry.lookup_eq_none_iff.1 hlookup)).symm⟩
    | some target =>
        right
        rw [hlookup] at hname
        refine ⟨target.short, Name.isCompound_short target, hname, ?_⟩
        rw [Name.key_withLast_short (htidy.space_of_lookup hlookup), Registry.key_of_lookup hlookup]

/-- The same for all files.  Without renames the files stay as they are, and the registry leads
nowhere. -/
theorem meaning_fixedAll {registry : Registry} (htidy : registry.Tidy)
    {sources afterwards : List Source} {count : Nat} {notes : Notes}
    (hfix : fixAll registry sources = ⟨.ok count, (afterwards, notes)⟩) {file : Nat}
    {before : Source} (hbefore : sources[file]? = some before)
    (hformed : ∀ b ∈ before.references, WellFormed b) {i : Nat} {b : Reference}
    (hb : before.references[i]? = some b) :
    ∃ after a, afterwards[file]? = some after ∧ after.references[i]? = some a ∧
      (b.KeepsBinding before.references after.references a →
        (a.meaning after.references).key =
          registry.present (b.meaning before.references).key) := by
  unfold fixAll at hfix
  split at hfix
  case isTrue hempty =>
    obtain ⟨-, hstate⟩ := Attempt.success_eq hfix
    obtain ⟨rfl, -⟩ := Prod.mk.inj hstate
    refine ⟨before, b, hbefore, hb, fun _ => ?_⟩
    have hnone : registry.find? (b.meaning before.references).key = none := by
      rw [Registry.find?, List.eq_nil_of_length_eq_zero hempty]
      rfl
    rw [Registry.present_of_find?_none hnone]
  case isFalse =>
    obtain ⟨after, n, told, hafter, hpass⟩ := Pass.overAll_ok hfix hbefore
    obtain ⟨a, ha, -⟩ := (fix_ok hpass).exists_after hb
    exact ⟨after, a, hafter, ha, meaning_fixed htidy hpass hformed hb ha⟩

/-! ## A file by itself -/

/-- The references `before` have become `after`, and every name is still bound by the import that
bound it, or by none.  No import on which a longer name builds was renamed itself, and no name is
one of the words that are never looked up. -/
structure Steady (registry : Registry) (before after : List Reference) : Prop where
  binders : ∀ site ∈ before.zip after, site.1.kind ≠ .import_ →
    site.2.binder? after = site.1.binder? before
  built : ∀ b ∈ before, b.kind ≠ .import_ → b.name.isCompound = true →
    ∀ clause ∈ (b.binder? before).bind (before[·]?), registry.lookup clause.imported = none
  looked : ∀ b ∈ before, b.kind ≠ .import_ → b.name.isRelativeScope = false

instance (registry : Registry) (before after : List Reference) :
    Decidable (Steady registry before after) :=
  decidable_of_iff (_ ∧ _ ∧ _)
    ⟨fun h => ⟨h.1, h.2.1, h.2.2⟩, fun h => ⟨h.binders, h.built, h.looked⟩⟩

/-- An import that was not renamed itself imports the same after the fix. -/
theorem importedKey?_fixed {registry : Registry} {before after : Source} {count : Nat}
    {notes : Notes} (hfix : fix registry before = ⟨.ok count, (after, notes)⟩) {j : Nat}
    {clause : Reference} (hclause : before.references[j]? = some clause)
    (hkind : clause.kind = .import_) (hlookup : registry.lookup clause.imported = none) :
    Reference.importedKey? after.references (some j) =
      Reference.importedKey? before.references (some j) := by
  obtain ⟨clause', hclause', hword⟩ := (fix_ok hfix).exists_after hclause
  have hname : clause'.name = clause.name := by
    rw [hword.name, hclause, Option.bind_some, fixOf, hkind]
    dsimp only
    rw [fixImport, hlookup]
    rfl
  simp only [Reference.importedKey?, Option.bind_some, hclause, hclause', Option.map_some,
    Reference.imported_congr hname hword.group]

theorem Steady.keepsBinding {registry : Registry} {before after : Source} {count : Nat}
    {notes : Notes} (hsteady : Steady registry before.references after.references)
    (hfix : fix registry before = ⟨.ok count, (after, notes)⟩) {i : Nat} {b a : Reference}
    (hb : before.references[i]? = some b) (ha : after.references[i]? = some a) :
    b.KeepsBinding before.references after.references a := by
  by_cases hkind : b.kind = .import_
  · exact Or.inl hkind
  · have hmem := List.mem_of_getElem? hb
    have hsite : (b, a) ∈ before.references.zip after.references :=
      List.mem_of_getElem? (List.getElem?_zip_eq_some.2 ⟨hb, ha⟩)
    refine Or.inr ⟨hsteady.looked b hmem hkind, hsteady.binders (b, a) hsite hkind,
      fun hcompound => ?_⟩
    cases hplace : b.binder? before.references with
    | none => rfl
    | some j =>
        obtain ⟨clause, hclause, hclauseKind⟩ := Reference.binder?_import hplace
        refine importedKey?_fixed hfix hclause hclauseKind ?_
        exact hsteady.built b hmem hkind hcompound clause (by rw [hplace]; exact hclause)

/-- **Fixing one file.**  Take any registry that keeps to the namespaces and has no empty name, and
any file whose references are well formed.  If the fix goes through and the bindings are steady,
then every reference of the file, import or not, stands afterwards for what the registry resolves to
what it stood for before. -/
theorem meaning_fix {calls : List Renaming}
    (hstays : ∀ e ∈ (Registry.registerAll {} calls).entries, e.new.space.key = e.old.space.key)
    (hspelled : ∀ e ∈ (Registry.registerAll {} calls).entries, e.new ≠ "")
    {before after : Source} {count : Nat} {notes : Notes}
    (hfix : fix (Registry.registerAll {} calls) before = ⟨.ok count, (after, notes)⟩)
    (hformed : ∀ b ∈ before.references, WellFormed b)
    (hsteady : Steady (Registry.registerAll {} calls) before.references after.references) :
    after.references.length = before.references.length ∧
    ∀ (i : Nat) (b a : Reference), before.references[i]? = some b → after.references[i]? = some a →
      (a.meaning after.references).key =
        ((Registry.registerAll {} calls).resolve (b.meaning before.references)).key := by
  have htidy : (Registry.registerAll {} calls).Tidy :=
    ⟨hstays, Registry.normal_registerAll (by simp) calls⟩
  refine ⟨(fix_ok hfix).length, fun i b a hb ha => ?_⟩
  rw [Registry.key_resolve hspelled]
  exact meaning_fixed htidy hfix hformed hb ha (hsteady.keepsBinding hfix hb ha)

/-! ### Every kind of reference at once -/

/-- Two renames in a row, and two more. -/
def movedOn : List Renaming :=
  [⟨"App\\Order", "App\\Draft"⟩, ⟨"App\\Draft", "App\\Sale"⟩, ⟨"App\\Item", "App\\Ware"⟩,
    ⟨"Lib\\Text\\Line", "Lib\\Text\\Row"⟩]

/-- A file of the namespace `App`: imports of every form, names that they bind, and names that are
bound by none. -/
def ledger : Source :=
  let at_ (place : Int) (kind : ReferenceKind) (name : Name) : Reference :=
    { name, kind, span := Span.point place, space := "App" }
  { path := ⟨"", ["Ledger.php"]⟩
    content := []
    references :=
      [at_ 0 .import_ "App\\Item",
        { at_ 1 .import_ "\\App\\Order" with aliasName := some "Former" },
        { at_ 2 .import_ "Text\\Line" with group := some "lib" },
        at_ 3 .import_ "Lib\\Text",
        at_ 4 .bare "item", at_ 5 .bare "Former", at_ 6 .bare "Line", at_ 7 .bare "Order",
        at_ 8 .qualified "Text\\Line", at_ 9 .qualified "\\App\\ORDER",
        at_ 10 .qualified "namespace\\Item", at_ 11 .bare "Elsewhere"] }

theorem meaning_fix_ledger :
    (∀ e ∈ (Registry.registerAll {} movedOn).entries, e.new.space.key = e.old.space.key) ∧
    (∀ e ∈ (Registry.registerAll {} movedOn).entries, e.new ≠ "") ∧
    (∀ b ∈ ledger.references, WellFormed b) ∧
    ∃ count after notes,
      fix (Registry.registerAll {} movedOn) ledger = ⟨.ok count, (after, notes)⟩ ∧
      Steady (Registry.registerAll {} movedOn) ledger.references after.references ∧
      ∀ (i : Nat) (b a : Reference), ledger.references[i]? = some b →
        after.references[i]? = some a → (a.meaning after.references).key =
          ((Registry.registerAll {} movedOn).resolve (b.meaning ledger.references)).key := by
  have hstays : ∀ e ∈ (Registry.registerAll {} movedOn).entries,
      e.new.space.key = e.old.space.key := by decide +kernel
  have hspelled : ∀ e ∈ (Registry.registerAll {} movedOn).entries, e.new ≠ "" := by decide +kernel
  have hformed : ∀ b ∈ ledger.references, WellFormed b := by decide +kernel
  have hsteady : Steady (Registry.registerAll {} movedOn) ledger.references
      (fix (Registry.registerAll {} movedOn) ledger).state.1.references := by decide +kernel
  obtain ⟨count, hfix⟩ := Attempt.exists_ok_pair
    (show (fix (Registry.registerAll {} movedOn) ledger).failure? = none by decide +kernel)
  exact ⟨hstays, hspelled, hformed, count, _, _, hfix, hsteady,
    (meaning_fix hstays hspelled hfix hformed hsteady).2⟩

end References

end Rechristen
