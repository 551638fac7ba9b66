import Mathlib.Data.List.Forall2
import Rechristen.Proofs.Reference.Meaning
import Rechristen.Proofs.Text.Recasing

/-!
# Letter case in names that are read

A written name may change its letter case, and so may the imports it is read with: their names,
their aliases and the beginnings of their groups.  What the name stands for stays the same up to
letter case, and its first segment is imported, and bound by an alias, exactly if it was before
(`reading_recased`).

The argument has two halves.  Every way of putting names together commutes with taking lower-case
forms: stripping leading separators, joining two parts and putting a name into a namespace.  And the
reading of names sees no more of an import than a *clause*: the segment it binds, whether it does so
by an alias, and the key of what it imports.  Imports that change their letter case keep their
clauses.
-/

namespace Rechristen

/-! ## Names put together -/

namespace Name

theorem lowercase_normalize (name : Name) :
    Text.lowercase name.normalize = Name.normalize (Text.lowercase name) :=
  Text.lowercase_trimStart name

theorem lowercase_qualify (space short : Name) :
    Text.lowercase (qualify space short) =
      qualify (Text.lowercase space) (Text.lowercase short) := by
  rw [qualify_eq_ite, qualify_eq_ite, ← Text.lowercase_trim, apply_ite Text.lowercase,
    Text.lowercase_join]
  simp only [Text.lowercase_eq_empty_iff]

variable {a b : Name}

theorem key_of_lowercase (hlower : Text.lowercase a = Text.lowercase b) : a.key = b.key := by
  rw [key, key, lowercase_normalize, lowercase_normalize, hlower]

theorem key_qualify_of_lowercase {space space' : Name}
    (hspace : Text.lowercase space = Text.lowercase space')
    (hlower : Text.lowercase a = Text.lowercase b) :
    (qualify space a).key = (qualify space' b).key := by
  apply key_of_lowercase
  rw [lowercase_qualify, lowercase_qualify, hspace, hlower]

/-- A name continued after a separator: of what stands before only the key matters, of what stands
behind only the lower-case form. -/
theorem key_join_of_lowercase {rest rest' : Name} (hkey : a.key = b.key)
    (hrest : Text.lowercase rest = Text.lowercase rest') :
    (a ++ String.singleton separator ++ rest).key =
      (b ++ String.singleton separator ++ rest').key := by
  calc (a ++ String.singleton separator ++ rest).key
      = (b ++ String.singleton separator ++ rest).key := key_join_congr hkey rest
    _ = (b ++ String.singleton separator ++ rest').key := by
        apply key_of_lowercase
        rw [Text.lowercase_join, Text.lowercase_join, hrest]

theorem isCompound_of_lowercase (hlower : Text.lowercase a = Text.lowercase b) :
    a.isCompound = b.isCompound := by
  have hmem : separator ∈ a.toList ↔ separator ∈ b.toList := by
    rw [← Text.separator_mem_lowercase_iff, hlower, Text.separator_mem_lowercase_iff]
  rw [isCompound, isCompound, Bool.eq_iff_iff, List.contains_iff_mem, List.contains_iff_mem, hmem]

/-- Names with one lower-case form split alike at their first separators. -/
theorem lowercase_parts {first first' rest rest' : Name} (hfirst : separator ∉ first.toList)
    (hfirst' : separator ∉ first'.toList)
    (hlower : Text.lowercase (first ++ String.singleton separator ++ rest) =
      Text.lowercase (first' ++ String.singleton separator ++ rest')) :
    Text.lowercase first = Text.lowercase first' ∧ Text.lowercase rest = Text.lowercase rest' := by
  rw [← Text.separator_mem_lowercase_iff] at hfirst hfirst'
  have hcut := congrArg (Text.cut separator) hlower
  rw [Text.lowercase_join, Text.lowercase_join, cut_join hfirst, cut_join hfirst'] at hcut
  simpa using hcut

theorem lowercase_first (hlower : Text.lowercase a = Text.lowercase b) :
    Text.lowercase a.first = Text.lowercase b.first := by
  have hshape := isCompound_of_lowercase hlower
  cases ha : a.isCompound with
  | false =>
      rw [ha] at hshape
      rw [first, first, Text.cut_of_not_mem (isCompound_eq_false_iff.1 ha),
        Text.cut_of_not_mem (isCompound_eq_false_iff.1 hshape.symm), hlower]
  | true =>
      rw [ha] at hshape
      obtain ⟨first, rest, rfl, hfirst⟩ := exists_first ha
      obtain ⟨first', rest', rfl, hfirst'⟩ := exists_first hshape.symm
      rw [Name.first, Name.first, cut_join hfirst, cut_join hfirst']
      exact (lowercase_parts hfirst hfirst' hlower).1

end Name

/-! ## Imports -/

namespace Reference

/-- Two references differ only in letter case: they are of one kind and stand in one namespace, and
their names, aliases and groups differ only in letter case.  Their places in the file play no
part. -/
structure Recased (a b : Reference) : Prop where
  kind : a.kind = b.kind
  space : a.space = b.space
  name : Text.Recased a.name b.name
  aliasName : Option.Rel Text.Recased a.aliasName b.aliasName
  group : Option.Rel Text.Recased a.group b.group

theorem Recased.refl (a : Reference) : a.Recased a := by
  have hoptional : ∀ text : Option Name, Option.Rel Text.Recased text text := by
    rintro (_ | text)
    · exact .none
    · exact .some (Text.Recased.refl text)
  exact ⟨rfl, rfl, Text.Recased.refl _, hoptional _, hoptional _⟩

/-- An optional text that changes its letter case is still given or still missing; an empty one
counts as missing. -/
theorem given_cases {a b : Option Name} (hrecased : Option.Rel Text.Recased a b) :
    (a.filter (!·.isEmpty) = none ∧ b.filter (!·.isEmpty) = none) ∨
    ∃ s t, a.filter (!·.isEmpty) = some s ∧ b.filter (!·.isEmpty) = some t ∧
      Text.lowercase s = Text.lowercase t := by
  cases hrecased with
  | none => exact Or.inl ⟨rfl, rfl⟩
  | @some s t hsame =>
      have hlower := hsame.lowercase_eq
      by_cases hempty : s = ""
      · have hempty' : t = "" := by
          rwa [← Text.lowercase_eq_empty_iff, ← hlower, Text.lowercase_eq_empty_iff]
        exact Or.inl ⟨by simp [hempty], by simp [hempty']⟩
      · have hempty' : t ≠ "" := by
          rwa [Ne, ← Text.lowercase_eq_empty_iff, ← hlower, Text.lowercase_eq_empty_iff]
        exact Or.inr ⟨s, t, by simp [hempty], by simp [hempty'], hlower⟩

namespace Recased

variable {a b : Reference} (hrecased : a.Recased b)
include hrecased

theorem isSome_alias : a.alias?.isSome = b.alias?.isSome := by
  rw [alias?, alias?]
  rcases given_cases hrecased.aliasName with ⟨ha, hb⟩ | ⟨s, t, ha, hb, -⟩
  · rw [ha, hb]
  · rw [ha, hb, Option.isSome_some, Option.isSome_some]

theorem boundBy : Resolver.boundBy a = Resolver.boundBy b := by
  rw [Resolver.boundBy, Resolver.boundBy, localName, localName, alias?, alias?]
  rcases given_cases hrecased.aliasName with ⟨ha, hb⟩ | ⟨s, t, ha, hb, hlower⟩
  · have hkey := Name.key_of_lowercase hrecased.name.lowercase_eq
    rw [ha, hb]
    exact (Name.key_eq_iff.1 hkey).2
  · rw [ha, hb]
    exact hlower

theorem key_imported : a.imported.key = b.imported.key := by
  have hname := hrecased.name.lowercase_eq
  rw [imported, imported, group?, group?]
  rcases given_cases hrecased.group with ⟨ha, hb⟩ | ⟨s, t, ha, hb, hlower⟩
  · rw [ha, hb]
    simpa using Name.key_of_lowercase hname
  · have hnormal : Text.lowercase a.name.normalize = Text.lowercase b.name.normalize := by
      rw [Name.lowercase_normalize, Name.lowercase_normalize, hname]
    rw [ha, hb]
    exact Name.key_qualify_of_lowercase hlower hnormal

end Recased

end Reference

/-! ## Reading -/

namespace Resolver

/-- What the reading of names sees of an import. -/
structure Clause where
  /-- The segment it binds, in lower case. -/
  segment : String
  /-- Whether it binds it by an alias. -/
  aliased : Bool
  /-- The key of what it imports. -/
  target : Name.Key

/-- The clause of an import. -/
def clause (i : Reference) : Clause :=
  ⟨boundBy i, i.alias?.isSome, i.imported.key⟩

/-- The clauses of the imports that count. -/
def clauses (r : Resolver) : List Clause :=
  r.imports.map clause

theorem clauses_recased (space : Name) {references references' : List Reference}
    (hrecased : List.Forall₂ Reference.Recased references references') :
    (ofReferences space references).clauses = (ofReferences space references').clauses := by
  unfold clauses ofReferences
  induction hrecased with
  | nil => rfl
  | @cons a b _ _ hhead _ ih =>
      have hclause : clause a = clause b := by
        rw [clause, clause, hhead.boundBy, hhead.isSome_alias, hhead.key_imported]
      dsimp only at ih ⊢
      rw [List.filter_cons, List.filter_cons, hhead.kind, hhead.space]
      split
      · rw [List.map_cons, List.map_cons, hclause, ih]
      · exact ih

theorem key_binding? (r : Resolver) (segment : Name) :
    (r.binding? segment).map (·.imported.key) =
      (r.clauses.reverse.find? fun c => c.segment = Text.lowercase segment).map (·.target) := by
  rw [binding?, clauses, ← List.map_reverse, List.find?_map, Option.map_map, Function.comp_def,
    Function.comp_def]
  congr

theorem isImported_eq (r : Resolver) (name : Name) :
    r.isImported name = r.clauses.any fun c => c.segment = Text.lowercase name.first := by
  rw [isImported, clauses, List.any_map, Function.comp_def]
  congr

theorem isAliased_eq (r : Resolver) (name : Name) :
    r.isAliased name =
      r.clauses.any fun c => c.aliased && c.segment = Text.lowercase name.first := by
  rw [isAliased, clauses, List.any_map, Function.comp_def]
  congr

variable {r r' : Resolver}

/-- A segment in another letter case is bound by a corresponding import, or again by none. -/
theorem binding?_cases (hclauses : r.clauses = r'.clauses) {segment segment' : Name}
    (hlower : Text.lowercase segment = Text.lowercase segment') :
    (r.binding? segment = none ∧ r'.binding? segment' = none) ∨
    ∃ i i', r.binding? segment = some i ∧ r'.binding? segment' = some i' ∧
      i.imported.key = i'.imported.key := by
  have hkeys : (r.binding? segment).map (·.imported.key) =
      (r'.binding? segment').map (·.imported.key) := by
    rw [key_binding?, key_binding?, hclauses, hlower]
  cases hbound : r.binding? segment with
  | none =>
      rw [hbound, Option.map_none, eq_comm, Option.map_eq_none_iff] at hkeys
      exact Or.inl ⟨rfl, hkeys⟩
  | some i =>
      rw [hbound, Option.map_some, eq_comm, Option.map_eq_some_iff] at hkeys
      obtain ⟨i', hbound', hkey⟩ := hkeys
      exact Or.inr ⟨i, i', rfl, hbound', hkey.symm⟩

/-- Names are read alike, up to letter case, with imports that have the same clauses. -/
theorem key_resolve_of_lowercase (hspace : r.space = r'.space) (hclauses : r.clauses = r'.clauses)
    {name name' : Name} (hlower : Text.lowercase name = Text.lowercase name') :
    (r.resolve name).key = (r'.resolve name').key := by
  have hshape := Name.isCompound_of_lowercase hlower
  have hspaces : Text.lowercase r.space = Text.lowercase r'.space := by rw [hspace]
  -- A name that belongs to the namespace, whatever its form.
  have hown := Name.key_qualify_of_lowercase hspaces hlower
  cases hname : name.isCompound with
  | false =>
      rw [hname] at hshape
      rw [resolve_simple r hname, resolve_simple r' hshape.symm]
      rcases binding?_cases hclauses hlower with ⟨hnone, hnone'⟩ | ⟨i, i', hsome, hsome', hkey⟩
      · rw [hnone, hnone']
        exact hown
      · rw [hsome, hsome']
        exact hkey
  | true =>
      rw [hname] at hshape
      obtain ⟨first, rest, rfl, hfirst⟩ := Name.exists_first hname
      obtain ⟨first', rest', rfl, hfirst'⟩ := Name.exists_first hshape.symm
      obtain ⟨hfirsts, hrests⟩ := Name.lowercase_parts hfirst hfirst' hlower
      have hempty : first = "" ↔ first' = "" := by
        rw [← Text.lowercase_eq_empty_iff, hfirsts, Text.lowercase_eq_empty_iff]
      rw [resolve_join r hfirst, resolve_join r' hfirst', hfirsts]
      simp only [hempty]
      -- Complete names, names read from the namespace itself, and names that an import may bind.
      split
      · simpa using Name.key_of_lowercase hlower
      · split
        · exact Name.key_qualify_of_lowercase hspaces hrests
        · rcases binding?_cases hclauses hfirsts with ⟨hnone, hnone'⟩ | ⟨i, i', hsome, hsome', hkey⟩
          · rw [hnone, hnone']
            exact hown
          · rw [hsome, hsome']
            exact Name.key_join_of_lowercase hkey hrests

/-- **Letter case plays no part in reading names.**  Let a name change its letter case, or the
references of its file, or both.  Then the name stands for the same class as before, and its first
segment is imported, and bound by an alias, exactly if it was before. -/
theorem reading_recased (space : Name) {references references' : List Reference} {name name' : Name}
    (hreferences : List.Forall₂ Reference.Recased references references')
    (hname : Text.Recased name name') :
    ((ofReferences space references).resolve name).key =
        ((ofReferences space references').resolve name').key ∧
      (ofReferences space references).isAliased name =
        (ofReferences space references').isAliased name' ∧
      (ofReferences space references).isImported name =
        (ofReferences space references').isImported name' := by
  have hspace :
      (ofReferences space references).space = (ofReferences space references').space := rfl
  have hclauses := clauses_recased space hreferences
  have hlower := hname.lowercase_eq
  have hfirst := Name.lowercase_first hlower
  refine ⟨key_resolve_of_lowercase hspace hclauses hlower, ?_, ?_⟩
  · rw [isAliased_eq, isAliased_eq, hclauses, hfirst]
  · rw [isImported_eq, isImported_eq, hclauses, hfirst]

/-! ### A till that takes cash -/

/-- An import clause of the namespace `App`. -/
def tillClause (name : Name) (alias_ group : Option Name) : Reference :=
  { name, kind := .import_, span := Span.point 0, space := "App", aliasName := alias_, group }

/-- The imports of a till.  Two of them bind `Cash`, and the later one counts: it does so by an
alias, and in a group. -/
def till : List Reference :=
  [tillClause "App\\Domain\\Till" none none, tillClause "App\\Billing\\Cash" none none,
    tillClause "Écu" (some "Cash") (some "\\App\\Money\\")]

/-- The same imports, some in another letter case. -/
def shoutedTill : List Reference :=
  [tillClause "App\\Domain\\Till" none none, tillClause "APP\\Billing\\CASH" none none,
    tillClause "éCU" (some "cash") (some "\\APP\\money\\")]

theorem reading_recased_till :
    List.Forall₂ Reference.Recased till shoutedTill ∧ Text.Recased "Cash\\Coin" "CASH\\coin" ∧
    (((ofReferences "App" till).resolve "Cash\\Coin").key =
        ((ofReferences "App" shoutedTill).resolve "CASH\\coin").key ∧
      (ofReferences "App" till).isAliased "Cash\\Coin" =
        (ofReferences "App" shoutedTill).isAliased "CASH\\coin" ∧
      (ofReferences "App" till).isImported "Cash\\Coin" =
        (ofReferences "App" shoutedTill).isImported "CASH\\coin") ∧
    ((ofReferences "App" shoutedTill).resolve "CASH\\coin").key = ⟨"app\\money\\écu\\coin"⟩ := by
  have hreferences : List.Forall₂ Reference.Recased till shoutedTill :=
    .cons (.refl _) <|
    .cons ⟨rfl, rfl, by decide +kernel, .none, .none⟩ <|
    .cons ⟨rfl, rfl, by decide +kernel, .some (by decide +kernel), .some (by decide +kernel)⟩ .nil
  have hname : Text.Recased "Cash\\Coin" "CASH\\coin" := by decide +kernel
  exact ⟨hreferences, hname, reading_recased "App" hreferences hname, by decide +kernel⟩

end Resolver

end Rechristen
