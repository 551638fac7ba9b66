import Rechristen.Name.Resolver
import Rechristen.Proofs.Name.Segments

/-!
# What a reference stands for

An import stands for what it imports.  Any other reference is read with the imports of its
namespace: its first segment may be bound by one of them, its *binder*.  A single segment with a
binder stands for what the binder imports (`meaning_of_bound`).  In every other case the last
segment of a name is the last segment of what it stands for, and replacing the one replaces the
other.

A file may be reworked as a whole: references and imports change together.  If a reference keeps its
binder (`KeepsBinding`), then what it stands for changes as the one reference does that decides it:
the binder of a single segment, or else the reference itself (`meaning_step`).
-/

namespace Rechristen

/-! ## Simple and compound names -/

namespace Name

/-- A compound name splits at its first separator. -/
theorem exists_first {name : Name} (hcompound : name.isCompound = true) :
    ∃ first rest : Name, name = first ++ String.singleton separator ++ rest ∧
      separator ∉ first.toList := by
  have hmem : separator ∈ name.toList := by simpa [isCompound] using hcompound
  obtain ⟨first, rest, hsplit, hfirst⟩ := List.eq_append_cons_of_mem hmem
  refine ⟨String.ofList first, String.ofList rest, ?_, by simpa using hfirst⟩
  rw [← String.toList_inj, hsplit]
  simp

theorem cut_join {first : Name} (hfirst : separator ∉ first.toList) (rest : Name) :
    Text.cut separator (first ++ String.singleton separator ++ rest) = (first, some rest) := by
  have hsplit : (first ++ String.singleton separator ++ rest).toList =
      first.toList ++ separator :: rest.toList := by
    simp
  rw [Text.cut_of_split hsplit hfirst]
  simp

theorem begins_separator_iff (name : Name) :
    Text.begins name (String.singleton separator) = true ↔
      ∃ rest, name.toList = separator :: rest := by
  rw [Text.begins, String.toList_singleton, List.isPrefixOf_iff_prefix]
  constructor
  · rintro ⟨rest, hrest⟩
    exact ⟨rest, hrest.symm⟩
  · rintro ⟨rest, hrest⟩
    exact ⟨rest, hrest.symm⟩

theorem begins_join {first : Name} (hfirst : separator ∉ first.toList) (rest : Name) :
    Text.begins (first ++ String.singleton separator ++ rest) (String.singleton separator) = true ↔
      first = "" := by
  rw [begins_separator_iff]
  constructor
  · rintro ⟨tail, htail⟩
    cases hchars : first.toList with
    | nil => exact String.toList_eq_nil_iff.1 hchars
    | cons c cs =>
        obtain ⟨rfl, -⟩ : c = separator ∧ _ := by simpa [hchars] using htail
        simp [hchars] at hfirst
  · rintro rfl
    exact ⟨rest.toList, by simp⟩

theorem begins_simple {name : Name} (hsimple : name.isCompound = false) :
    ¬Text.begins name (String.singleton separator) = true := by
  rw [begins_separator_iff]
  rintro ⟨rest, hrest⟩
  simp [isCompound, hrest] at hsimple

end Name

open Name (separator)

namespace Resolver

variable (r : Resolver)

theorem resolve_simple {name : Name} (hsimple : name.isCompound = false) :
    r.resolve name =
      match r.binding? name with
      | some i => i.imported
      | none => Name.qualify r.space name := by
  unfold resolve
  rewrite [if_neg (Name.begins_simple hsimple),
    Text.cut_of_not_mem (Name.isCompound_eq_false_iff.1 hsimple)]
  rfl

theorem resolve_join {first : Name} (hfirst : separator ∉ first.toList) (rest : Name) :
    r.resolve (first ++ String.singleton separator ++ rest) =
      if first = "" then (first ++ String.singleton separator ++ rest).normalize
      else if Text.lowercase first = "namespace" then Name.qualify r.space rest
      else
        match r.binding? first with
        | some i => i.imported ++ String.singleton separator ++ rest
        | none => Name.qualify r.space (first ++ String.singleton separator ++ rest) := by
  unfold resolve
  rw [Name.cut_join hfirst]
  by_cases hempty : first = ""
  · rw [if_pos ((Name.begins_join hfirst rest).2 hempty), if_pos hempty]
  · rewrite [if_neg (mt (Name.begins_join hfirst rest).1 hempty), if_neg hempty]
    rfl

/-- A name with separators: its last segment is the last segment of what it stands for. -/
theorem resolve_withLast {name last : Name} (hcompound : name.isCompound = true)
    (hlast : last.isCompound = false) :
    r.resolve (name.withLast last) = (r.resolve name).withLast last := by
  obtain ⟨first, rest, rfl, hfirst⟩ := Name.exists_first hcompound
  rw [Name.withLast_join, resolve_join r hfirst, resolve_join r hfirst]
  split
  · rw [← Name.withLast_join, Name.normalize_withLast hlast]
  · split
    · exact Name.qualify_withLast _ _ _
    · cases r.binding? first with
      | some i => exact (Name.withLast_join _ _ _).symm
      | none =>
          rw [← Name.withLast_join]
          exact Name.qualify_withLast _ _ _

end Resolver

namespace Reference

/-! ## Binders -/

/-- What a reference stands for, read among the references of its file. -/
def meaning (references : List Reference) (site : Reference) : Name :=
  if site.kind = .import_ then site.imported
  else (Resolver.ofReferences site.space references).resolve site.name

/-- The segment of a written name that an import may bind: the first one, unless the name is
complete or is read from the namespace itself. -/
def bindable? (name : Name) : Option Name :=
  if Text.begins name (String.singleton separator) then none
  else
    match Text.cut separator name with
    | (first, some _) => if Text.lowercase first = "namespace" then none else some first
    | (first, none) => some first

/-- The place of the import that binds a segment in a namespace: the last one that does. -/
def bindingPlace? (references : List Reference) (space segment : Name) : Option Nat :=
  (references.zipIdx.reverse.find? fun r =>
    r.1.kind = .import_ && r.1.space = space &&
      Resolver.boundBy r.1 = Text.lowercase segment).map Prod.snd

/-- The place of the import that binds the first segment of a reference. -/
def binder? (references : List Reference) (site : Reference) : Option Nat :=
  if site.kind = .import_ then none
  else (bindable? site.name).bind (bindingPlace? references site.space)

/-- The last element that passes is the one at the last place that does. -/
theorem find?_reverse_eq {α : Type} (xs : List α) (test : α → Bool) :
    xs.reverse.find? test =
      ((xs.zipIdx.reverse.find? fun x => test x.1).map Prod.snd).bind (xs[·]?) := by
  have hfst : xs.reverse = xs.zipIdx.reverse.map Prod.fst := by
    rw [List.map_reverse, List.zipIdx_map_fst]
  rw [hfst, List.find?_map]
  change (xs.zipIdx.reverse.find? fun x => test x.1).map Prod.fst = _
  cases hfound : xs.zipIdx.reverse.find? fun x => test x.1 with
  | none => rfl
  | some x =>
      have hmem := List.mem_reverse.1 (List.mem_of_find?_eq_some hfound)
      exact (List.mem_zipIdx_iff_getElem?.1 hmem).symm

theorem binding?_eq (references : List Reference) (space segment : Name) :
    (Resolver.ofReferences space references).binding? segment =
      (bindingPlace? references space segment).bind (references[·]?) := by
  unfold Resolver.binding? Resolver.ofReferences bindingPlace?
  dsimp only
  rw [← List.filter_reverse, List.find?_filter, find?_reverse_eq]
  simp only [Bool.decide_and, Bool.decide_eq_true]

theorem bindingPlace?_import {references : List Reference} {space segment : Name} {j : Nat}
    (hplace : bindingPlace? references space segment = some j) :
    ∃ clause, references[j]? = some clause ∧ clause.kind = .import_ := by
  obtain ⟨x, hfound, rfl⟩ := Option.map_eq_some_iff.1 hplace
  have hmem := List.mem_reverse.1 (List.mem_of_find?_eq_some hfound)
  have htest := List.find?_some hfound
  simp only [Bool.and_eq_true, decide_eq_true_eq] at htest
  exact ⟨x.1, List.mem_zipIdx_iff_getElem?.1 hmem, htest.1.1⟩

theorem bindable?_simple {name : Name} (hsimple : name.isCompound = false) :
    bindable? name = some name := by
  unfold bindable?
  rw [if_neg (Name.begins_simple hsimple),
    Text.cut_of_not_mem (Name.isCompound_eq_false_iff.1 hsimple)]

theorem bindable?_join {first : Name} (hfirst : separator ∉ first.toList) (rest : Name) :
    bindable? (first ++ String.singleton separator ++ rest) =
      if first = "" ∨ Text.lowercase first = "namespace" then none else some first := by
  unfold bindable?
  rw [Name.cut_join hfirst]
  by_cases hempty : first = ""
  · rw [if_pos ((Name.begins_join hfirst rest).2 hempty), if_pos (Or.inl hempty)]
  · rw [if_neg (mt (Name.begins_join hfirst rest).1 hempty)]
    by_cases hspace : Text.lowercase first = "namespace" <;> simp [hempty, hspace]

/-! ## Meanings -/

theorem meaning_of_import (references : List Reference) {site : Reference}
    (hkind : site.kind = .import_) : meaning references site = site.imported :=
  if_pos hkind

/-- A single segment with a binder stands for what the binder imports. -/
theorem meaning_of_bound {references : List Reference} {site clause : Reference} {j : Nat}
    (hsimple : site.name.isCompound = false) (hbinder : binder? references site = some j)
    (hclause : references[j]? = some clause) : meaning references site = clause.imported := by
  unfold binder? at hbinder
  split at hbinder
  case isTrue => cases hbinder
  case isFalse hkind =>
    rw [bindable?_simple hsimple, Option.bind_some] at hbinder
    rw [meaning, if_neg hkind, Resolver.resolve_simple _ hsimple, binding?_eq, hbinder,
      Option.bind_some, hclause]

/-- A single segment without a binder belongs to its namespace. -/
theorem meaning_of_unbound {references : List Reference} {site : Reference}
    (hkind : site.kind ≠ .import_) (hsimple : site.name.isCompound = false)
    (hbinder : binder? references site = none) :
    meaning references site = Name.qualify site.space site.name := by
  rw [binder?, if_neg hkind, bindable?_simple hsimple, Option.bind_some] at hbinder
  rw [meaning, if_neg hkind, Resolver.resolve_simple _ hsimple, binding?_eq, hbinder,
    Option.bind_none]
  rfl

/-- A longer name is read alike, up to letter case, with references in which it has the same binder
and the binder imports the same. -/
theorem key_resolve_congr {before after : List Reference} {space name : Name}
    (hcompound : name.isCompound = true)
    (hplace : (bindable? name).bind (bindingPlace? after space) =
      (bindable? name).bind (bindingPlace? before space))
    (himported : ∀ j b a, (bindable? name).bind (bindingPlace? before space) = some j →
      before[j]? = some b → after[j]? = some a → a.imported.key = b.imported.key) :
    ((Resolver.ofReferences space after).resolve name).key =
      ((Resolver.ofReferences space before).resolve name).key := by
  obtain ⟨first, rest, rfl, hfirst⟩ := Name.exists_first hcompound
  rw [bindable?_join hfirst] at hplace himported
  rw [Resolver.resolve_join _ hfirst, Resolver.resolve_join _ hfirst]
  by_cases hempty : first = ""
  · rw [if_pos hempty, if_pos hempty]
  · by_cases hspace : Text.lowercase first = "namespace"
    · rw [if_neg hempty, if_neg hempty, if_pos hspace, if_pos hspace]
      rfl
    · rw [if_neg (by simp [hempty, hspace]), Option.bind_some, Option.bind_some] at hplace
      rw [if_neg (by simp [hempty, hspace]), Option.bind_some] at himported
      rw [if_neg hempty, if_neg hempty, if_neg hspace, if_neg hspace, binding?_eq, binding?_eq]
      cases hbefore : bindingPlace? before space first with
      | none =>
          rw [hbefore] at hplace
          rw [hplace]
          rfl
      | some j =>
          rw [hbefore] at hplace
          obtain ⟨b, hb, -⟩ := bindingPlace?_import hbefore
          obtain ⟨a, ha, -⟩ := bindingPlace?_import hplace
          rw [hplace, Option.bind_some, Option.bind_some, hb, ha]
          exact Name.key_join_congr (himported j b a hbefore hb ha) rest

/-- A single segment without a binder is no alias. -/
theorem isAliased_of_unbound {references : List Reference} {site : Reference}
    (hkind : site.kind ≠ .import_) (hsimple : site.name.isCompound = false)
    (hbinder : binder? references site = none) :
    (Resolver.ofReferences site.space references).isAliased site.name = false := by
  have hfirst : site.name.first = site.name := by
    rw [Name.first, Text.cut_of_not_mem (Name.isCompound_eq_false_iff.1 hsimple)]
  rw [binder?, if_neg hkind, bindable?_simple hsimple, Option.bind_some] at hbinder
  have hnone : (Resolver.ofReferences site.space references).binding? site.name = none := by
    rw [binding?_eq, hbinder]
    rfl
  have hall := List.find?_eq_none.1 hnone
  rw [Resolver.isAliased, List.any_eq_false, hfirst]
  intro clause hclause
  have hother := hall clause (List.mem_reverse.2 hclause)
  simp only [decide_eq_true_eq] at hother
  simp [hother]

/-- An import with another last segment imports another class of the same namespace. -/
theorem imported_withLast {b a : Reference} {last : Name} (hlast : last.isCompound = false)
    (hname : a.name = b.name.withLast last) (hgroup : a.group = b.group) :
    a.imported = b.imported.withLast last := by
  unfold imported group?
  rw [hgroup, hname, Name.normalize_withLast hlast]
  cases b.group.filter (!·.isEmpty) with
  | none => rfl
  | some group => exact Name.qualify_withLast _ _ _

theorem imported_congr {b a : Reference} (hname : a.name = b.name) (hgroup : a.group = b.group) :
    a.imported = b.imported := by
  unfold imported group?
  rw [hgroup, hname]

theorem bindable?_withLast {name last : Name} (hcompound : name.isCompound = true) :
    bindable? (name.withLast last) = bindable? name := by
  obtain ⟨first, rest, rfl, hfirst⟩ := Name.exists_first hcompound
  rw [Name.withLast_join, bindable?_join hfirst, bindable?_join hfirst]

/-! ## Files reworked as a whole -/

/-- What the import at a place imports, up to letter case. -/
def importedKey? (references : List Reference) (place : Option Nat) : Option Name.Key :=
  (place.bind (references[·]?)).map fun clause => clause.imported.key

/-- The reference `b` of `before` has become `a` in `after`, and its first segment is bound by the
same import as before, or still by none.  An import on which a longer name builds still imports the
same.  Nor is the reference one of the words that are never looked up. -/
def KeepsBinding (before after : List Reference) (b a : Reference) : Prop :=
  b.kind = .import_ ∨
    (b.name.isRelativeScope = false ∧ binder? after a = binder? before b ∧
      (b.name.isCompound = true →
        importedKey? after (binder? before b) = importedKey? before (binder? before b)))

instance (before after : List Reference) (b a : Reference) :
    Decidable (KeepsBinding before after b a) :=
  inferInstanceAs (Decidable (_ ∨ _))

/-- The place of the reference that decides what the one at `i` stands for: the binder of a single
segment, and else the reference itself. -/
def decider (references : List Reference) (i : Nat) (site : Reference) : Nat :=
  if site.name.isCompound then i else (binder? references site).getD i

theorem binder?_import {references : List Reference} {site : Reference} {j : Nat}
    (hbinder : binder? references site = some j) :
    ∃ clause, references[j]? = some clause ∧ clause.kind = .import_ := by
  unfold binder? at hbinder
  split at hbinder
  case isTrue => cases hbinder
  case isFalse =>
    obtain ⟨segment, -, hplace⟩ := Option.bind_eq_some_iff.1 hbinder
    exact bindingPlace?_import hplace

/-- A reference that decides for itself, and is no import, is no single segment with a binder. -/
theorem unbound_of_decider {references : List Reference} {i : Nat} {site : Reference}
    (hsite : references[i]? = some site) (hkind : site.kind ≠ .import_)
    (hsimple : site.name.isCompound = false) (hself : decider references i site = i) :
    binder? references site = none := by
  cases hplace : binder? references site with
  | none => rfl
  | some j =>
      obtain rfl : j = i := by simpa [decider, hsimple, hplace] using hself
      obtain ⟨clause, hclause, hclauseKind⟩ := binder?_import hplace
      obtain rfl := Option.some.inj (hsite.symm.trans hclause)
      exact absurd hclauseKind hkind

/-- A longer name that keeps its binding. -/
theorem meaning_step_compound (changed : Name.Key → Name.Key → Prop) {before after : List Reference}
    {b a : Reference} (hcompound : b.name.isCompound = true) (hnoImport : b.kind ≠ .import_)
    (hkind : a.kind = b.kind) (hspace : a.space = b.space)
    (hbinder : binder? after a = binder? before b)
    (hbuilds : importedKey? after (binder? before b) = importedKey? before (binder? before b))
    (hown : (a.name = b.name ∧ changed (b.meaning before).key (b.meaning before).key) ∨
      ∃ last, last.isCompound = false ∧ a.name = b.name.withLast last ∧
        changed (b.meaning before).key ((b.meaning before).withLast last).key) :
    changed (b.meaning before).key (a.meaning after).key := by
  have haImport : a.kind ≠ .import_ := by rwa [hkind]
  have hbindable : bindable? a.name = bindable? b.name := by
    rcases hown with ⟨hname, -⟩ | ⟨last, -, hname, -⟩
    · rw [hname]
    · rw [hname, bindable?_withLast hcompound]
  -- First the imports change under the old name, then the name does.
  have hread : ((Resolver.ofReferences b.space after).resolve b.name).key =
      (b.meaning before).key := by
    rw [binder?, binder?, if_neg haImport, if_neg hnoImport, hbindable, hspace] at hbinder
    rw [binder?, if_neg hnoImport] at hbuilds
    rw [meaning, if_neg hnoImport]
    refine key_resolve_congr hcompound hbinder ?_
    intro j clause clause' hplace hclause hclause'
    simpa [importedKey?, hplace, hclause, hclause'] using hbuilds
  have hafter : a.meaning after = (Resolver.ofReferences b.space after).resolve a.name := by
    rw [meaning, if_neg haImport, hspace]
  rcases hown with ⟨hname, hchanged⟩ | ⟨last, hlast, hname, hchanged⟩
  · rw [hafter, hname, hread]
    exact hchanged
  · rw [hafter, hname, Resolver.resolve_withLast _ hcompound hlast,
      Name.key_withLast_congr hlast hread]
    exact hchanged

/-- **Reworking a file.**  Let `changed` relate what a reference stands for before and after, for
imports and for references that are read without a binder of their own: these are respelled by
replacing the last segment, if at all.  Then it relates what every reference stands for that keeps
its binding. -/
theorem meaning_step (changed : Name.Key → Name.Key → Prop) {before after : List Reference}
    {i : Nat} {b a : Reference} (hb : before[i]? = some b) (ha : after[i]? = some a)
    (hkind : a.kind = b.kind) (hspace : a.space = b.space)
    (hcompound : a.kind ≠ .import_ → a.name.isCompound = b.name.isCompound)
    (hkeeps : KeepsBinding before after b a)
    (himport : ∀ clause clause', before[decider before i b]? = some clause →
      after[decider before i b]? = some clause' → clause.kind = .import_ →
      changed clause.imported.key clause'.imported.key)
    (hown : b.kind ≠ .import_ → decider before i b = i →
      (a.name = b.name ∧ changed (b.meaning before).key (b.meaning before).key) ∨
      ∃ last, last.isCompound = false ∧ a.name = b.name.withLast last ∧
        changed (b.meaning before).key ((b.meaning before).withLast last).key) :
    changed (b.meaning before).key (a.meaning after).key := by
  by_cases hisImport : b.kind = .import_
  · have hself : decider before i b = i := by simp [decider, binder?, hisImport]
    rw [hself] at himport
    rw [meaning_of_import before hisImport, meaning_of_import after (hkind.trans hisImport)]
    exact himport b a hb ha hisImport
  · -- A compound name is read in its namespace, and so is a single segment without a binder.  Only
    -- a bound segment stands for what its import does.
    obtain ⟨-, hbinder, hbuilds⟩ := hkeeps.resolve_left hisImport
    have haImport : a.kind ≠ .import_ := by rwa [hkind]
    have hshape := hcompound haImport
    cases hcomp : b.name.isCompound with
    | true =>
        have hself : decider before i b = i := by simp [decider, hcomp]
        exact meaning_step_compound changed hcomp hisImport hkind hspace hbinder (hbuilds hcomp)
          (hown hisImport hself)
    | false =>
        cases hplace : binder? before b with
        | none =>
            have hself : decider before i b = i := by simp [decider, hcomp, hplace]
            have hbefore := meaning_of_unbound hisImport hcomp hplace
            have hafter := meaning_of_unbound haImport (hshape.trans hcomp) (hbinder.trans hplace)
            rcases hown hisImport hself with ⟨hname, hchanged⟩ | ⟨last, -, hname, hchanged⟩
            · rw [hafter, hname, hspace, ← hbefore]
              exact hchanged
            · rw [Name.withLast_of_simple hcomp] at hname
              rw [hafter, hname, hspace, Name.qualify_eq_withLast hcomp, ← hbefore]
              exact hchanged
        | some j =>
            have hdecides : decider before i b = j := by simp [decider, hcomp, hplace]
            rw [hdecides] at himport
            obtain ⟨clause, hclause, hclauseKind⟩ := binder?_import hplace
            obtain ⟨clause', hclause', -⟩ := binder?_import (hbinder.trans hplace)
            rw [meaning_of_bound hcomp hplace hclause,
              meaning_of_bound (hshape.trans hcomp) (hbinder.trans hplace) hclause']
            exact himport clause clause' hclause hclause' hclauseKind

end Reference

end Rechristen
