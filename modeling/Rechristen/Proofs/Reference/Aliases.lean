import Rechristen.Proofs.Pass.References
import Rechristen.Proofs.Session.Respelling

/-!
# Aliases and the names that use them

An import may bind its class under an alias, and the file then uses the alias as a bare name.  The
alias in the import and the names that use it stand in different places, and both passes over a file
treat them apart.  A policy that respells a file at once decides about the alias by the class that
is imported, and about a name by the class that it is read as; and it reads names as the imports
were before.  The last pass, which follows the registry, never changes an alias, and leaves alone
the names that are one.

`aliases_kept` says that both agree: a name that was written like an alias is written like that
alias afterwards.  For this the imports of a namespace must bind different segments, since a name is
read by the last import that binds it.
-/

namespace Rechristen

namespace Reference

/-! ## What an alias binds -/

/-- Aliases can be told apart in a file: the imports of a namespace bind different segments, and
every alias has a place in the file and is none of the words for a class relative to another one. -/
structure AliasesClear (references : List Reference) : Prop where
  distinct : ∀ r ∈ references,
    ((Resolver.ofReferences r.space references).imports.map Resolver.boundBy).Nodup
  placed : ∀ r ∈ references, r.kind = .import_ → r.alias?.isSome → r.aliasSpan.isSome
  absolute : ∀ r ∈ references, r.kind = .import_ → ∀ name ∈ r.alias?, name.isRelativeScope = false

/-- `site` is a bare name, that is a single segment, and is written like the alias of the import
`clause` of its namespace. -/
structure Uses (site clause : Reference) : Prop where
  bare : site.kind = .bare
  simple : site.name.isCompound = false
  import_ : clause.kind = .import_
  space : clause.space = site.space
  written : clause.alias? = some site.name

theorem Uses.boundBy {site clause : Reference} (huses : site.Uses clause) :
    Resolver.boundBy clause = Text.lowercase site.name := by
  rw [Resolver.boundBy, localName, huses.written, Option.getD_some]

variable {references : List Reference} {site clause : Reference}

theorem Uses.mem_imports (huses : site.Uses clause) (hclause : clause ∈ references) :
    clause ∈ (Resolver.ofReferences site.space references).imports := by
  rw [Resolver.ofReferences, List.mem_filter]
  simp [hclause, huses.import_, huses.space]

/-- A name that uses an alias is read as what the import of the alias stands for. -/
theorem Uses.resolve (huses : site.Uses clause) (hclear : AliasesClear references)
    (hsite : site ∈ references) (hclause : clause ∈ references) :
    (Resolver.ofReferences site.space references).resolve site.name = clause.imported := by
  have hbinding :
      (Resolver.ofReferences site.space references).binding? site.name = some clause := by
    have hnodup := hclear.distinct site hsite
    rw [← List.nodup_reverse, ← List.map_reverse] at hnodup
    have hfound := Keyed.find?_of_mem hnodup (List.mem_reverse.2 (huses.mem_imports hclause))
    rwa [huses.boundBy] at hfound
  rw [Resolver.resolve_simple _ huses.simple, hbinding]

theorem Uses.isAliased (huses : site.Uses clause) (hclause : clause ∈ references) :
    (Resolver.ofReferences site.space references).isAliased site.name = true := by
  rw [Resolver.isAliased, List.any_eq_true]
  refine ⟨clause, huses.mem_imports hclause, ?_⟩
  rw [Name.first, Text.cut_of_not_mem (Name.isCompound_eq_false_iff.1 huses.simple)]
  simp [huses.written, huses.boundBy]

end Reference

/-! ## Both passes -/

/-- Every name that used an alias is written like that alias now. -/
def Reference.AliasesKept (before after : List Reference) : Prop :=
  ∀ (i j : Nat) (site clause : Reference), before[i]? = some site → before[j]? = some clause →
    site.Uses clause → ∃ site' clause', after[i]? = some site' ∧ after[j]? = some clause' ∧
      clause'.aliasName = some site'.name

open Reference (AliasesClear AliasesKept)

/-- A rewording keeps aliases and their uses together if it gives both the same text. -/
theorem Source.aliasesKept_of_rewordAll {before after : Source} {count : Nat}
    (hclear : AliasesClear before.references) {choose : Reference → Source.Rewording}
    (hreword : before.rewordAll (before.references.map choose) = ⟨.ok count, after⟩)
    (hagree : ∀ site ∈ before.references, ∀ clause ∈ before.references, site.Uses clause →
      (choose site).name.getD site.name = (choose clause).aliasName.getD site.name) :
    AliasesKept before.references after.references := by
  have hafter : ∀ (i : Nat) r, before.references[i]? = some r →
      after.references[i]? = some ((choose r).applyTo r) := by
    intro i r hr
    rw [rewordAll_references hreword, List.getElem?_mapIdx, List.getElem?_map, hr, Option.map_some,
      Option.map_some, Option.getD_some]
  intro i j site clause hsite hclause huses
  have hmem := List.mem_of_getElem? hclause
  have hplaced : clause.aliasSpan.isSome :=
    hclear.placed clause hmem huses.import_ (Option.isSome_of_eq_some huses.written)
  have hwritten : clause.aliasName = some site.name :=
    (Option.filter_eq_some_iff.1 huses.written).1
  refine ⟨_, _, hafter i site hsite, hafter j clause hclause, ?_⟩
  dsimp only [Rewording.applyTo]
  rw [if_pos hplaced, hwritten, hagree site (List.mem_of_getElem? hsite) clause hmem huses]
  cases (choose clause).aliasName <;> rfl

namespace Session

variable {s : Session} {p : Policy} {references : List Reference} {site clause : Reference}

theorem getD_withShort {written : Name} (hsimple : written.isCompound = false)
    (short : Option Name) : (withShort written short).getD written = short.getD written := by
  cases short with
  | none => rfl
  | some last =>
      rw [withShort, (Name.parts_of_simple hsimple).2.2]
      by_cases hsame : last = written
      · simp [Option.filter_some, hsame]
      · simp [Option.filter_some, hsame, Name.withLast_of_simple hsimple]

/-- A policy gives the same new text to an alias and to a name that uses it.  The name is read as
what the import of the alias stands for, so both are in the scope of the policy or neither is. -/
theorem localRewording_uses (huses : site.Uses clause) (hclear : AliasesClear references)
    (hsite : site ∈ references) (hclause : clause ∈ references) :
    (s.localRewording p (fun space => Resolver.ofReferences space references) site).name.getD
        site.name =
      (s.localRewording p (fun space => Resolver.ofReferences space references)
        clause).aliasName.getD site.name := by
  have hother : site.kind ≠ .import_ := by
    rw [huses.bare]
    decide
  have habsolute := hclear.absolute clause hclause huses.import_ site.name huses.written
  unfold localRewording
  rw [if_pos huses.import_, if_neg hother, if_neg (by simp [habsolute])]
  dsimp only
  rw [huses.resolve hclear hsite hclause]
  split
  case isFalse => rfl
  case isTrue =>
    dsimp only
    rw [if_pos (by simp [huses.isAliased hclause, huses.simple]), getD_withShort huses.simple,
      (Name.parts_of_simple huses.simple).2.2, huses.written, Option.bind_some]

end Session

/-- The last pass leaves alone a name that uses an alias. -/
theorem References.fixOf_uses {registry : Registry} {references : List Reference}
    {site clause : Reference} (huses : site.Uses clause) (hclause : clause ∈ references) :
    fixOf registry (fun space => Resolver.ofReferences space references) site = .keep := by
  rw [fixOf, huses.bare]
  dsimp only
  rw [fixBare, huses.isAliased hclause, Bool.or_true, if_pos rfl]

/-- **Aliases are kept.**  Take any file in which aliases can be told apart.  After a policy has
respelled its references at once, in whatever state the session is, and likewise after the last pass
has fixed them, whatever the registry is, every bare name that was written like an alias of its
namespace is written like the alias that the same import has then. -/
theorem Reference.aliases_kept {before : Source} (hclear : AliasesClear before.references) :
    (∀ (s t : Session) (p : Policy) (after : Source),
      s.respellLocal before p = ⟨.ok (), (t, after)⟩ →
      AliasesKept before.references after.references) ∧
    ∀ (registry : Registry) (count : Nat) (notes : Notes) (after : Source),
      References.fix registry before = ⟨.ok count, (after, notes)⟩ →
      AliasesKept before.references after.references := by
  constructor
  · intro s t p after hrespell
    obtain ⟨-, count, hreword⟩ := Session.respellLocal_ok hrespell
    refine Source.aliasesKept_of_rewordAll hclear hreword ?_
    intro site hsite clause hclause huses
    exact Session.localRewording_uses huses hclear hsite hclause
  · intro registry count notes after hfix
    refine Source.aliasesKept_of_rewordAll hclear (References.fix_reword hfix) ?_
    intro site _ clause hclause huses
    rw [References.fixOf_uses huses hclause]
    rfl

/-! ### A price with an amount of money -/

/-- A file that imports a class under an alias and uses the alias, in another letter case too. -/
def price : Source :=
  let at_ (place : Int) (kind : ReferenceKind) (name : Name) : Reference :=
    { name, kind, span := Span.point place, space := "App\\ValueObject" }
  { path := ⟨"", ["PriceValue.php"]⟩
    content := []
    references :=
      [{ at_ 0 .import_ "App\\ValueObject\\MoneyValue" with
          aliasName := some "AmountValue", aliasSpan := some (Span.point 1) },
        at_ 2 .bare "AmountValue", at_ 3 .bare "amountvalue", at_ 4 .bare "PriceValue"] }

/-- A session that has renamed the imported class. -/
def moneyRenamed : Session where
  registry := ⟨[⟨"App\\ValueObject\\MoneyValue", "App\\ValueObject\\Money"⟩]⟩

theorem Reference.aliases_kept_price :
    AliasesClear price.references ∧
    (∃ t after, moneyRenamed.respellLocal price Policy.valueObject = ⟨.ok (), (t, after)⟩ ∧
      after.references.map (·.name) =
        ["App\\ValueObject\\Money", "Amount", "amountvalue", "PriceValue"] ∧
      AliasesKept price.references after.references) ∧
    ∃ count after notes,
      References.fix moneyRenamed.registry price = ⟨.ok count, (after, notes)⟩ ∧
      after.references.map (·.name) =
        ["App\\ValueObject\\Money", "AmountValue", "amountvalue", "PriceValue"] ∧
      AliasesKept price.references after.references := by
  have hclear : AliasesClear price.references :=
    ⟨by decide +kernel, by decide +kernel, by decide +kernel⟩
  obtain ⟨hworked, hnames⟩ :
      (moneyRenamed.respellLocal price Policy.valueObject).failure? = none ∧
        (moneyRenamed.respellLocal price Policy.valueObject).state.2.references.map (·.name) =
          ["App\\ValueObject\\Money", "Amount", "amountvalue", "PriceValue"] := by decide +kernel
  obtain ⟨hworked', hnames'⟩ :
      (References.fix moneyRenamed.registry price).failure? = none ∧
        (References.fix moneyRenamed.registry price).state.1.references.map (·.name) =
          ["App\\ValueObject\\Money", "AmountValue", "amountvalue", "PriceValue"] := by
    decide +kernel
  obtain ⟨_, hrespell⟩ := Attempt.exists_ok_pair hworked
  obtain ⟨count, hfix⟩ := Attempt.exists_ok_pair hworked'
  exact ⟨hclear, ⟨_, _, hrespell, hnames, (aliases_kept hclear).1 _ _ _ _ hrespell⟩,
    count, _, _, hfix, hnames', (aliases_kept hclear).2 _ _ _ _ hfix⟩

end Rechristen
