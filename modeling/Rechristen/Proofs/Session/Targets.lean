import Rechristen.Proofs.Registry.Spaces
import Rechristen.Proofs.Session.Origins

/-!
# Where the registry leads, now and in the end

References are respelled in the course of a run, when the registry does not yet say what it says in
the end.  What was written then is still right in the end, for two reasons.

The registry never leads out of a namespace, because declarations stay in theirs (`Tidy`).

A name that a declaration has taken leads to that declaration ever after
(`Coherent.present_target`).  The exception is a name that another declaration gave up before: the
registry then leads to the other one.
-/

namespace Rechristen

namespace Session

/-- Declarations have short names, and the registry keeps to the namespaces. -/
structure Tidy (s : Session) : Prop where
  short : ∀ (id : DeclarationId) (d : Declaration), s.declarations[id]? = some d →
    d.shortName.IsShort
  registry : s.registry.Tidy

namespace Tidy

variable {s t : Session} {id : DeclarationId} {d : Declaration} {new : Name}

theorem congr (hs : s.Tidy) (hsame : SameNames s t) : t.Tidy := by
  obtain ⟨hdeclarations, hregistry, -⟩ := hsame
  constructor
  · rw [hdeclarations]
    exact hs.short
  · rw [hregistry]
    exact hs.registry

theorem renamed (hs : s.Tidy) (hrenamed : Renamed s t id d new) (hshort : new.IsShort) :
    t.Tidy := by
  have hold : d.shortName.isCompound = false := (hs.short id d hrenamed.found).simple
  have hspace : (Name.qualify d.space new).space = d.name.space := by
    rw [Name.qualify_eq_withLast hold, Name.space_withLast hshort.simple]
    rfl
  obtain ⟨planned, hset⟩ := hrenamed.declarations
  constructor
  · intro i di hi
    by_cases hself : i = id
    · subst hself
      have hlt : i < s.declarations.length := (List.getElem?_eq_some_iff.1 hrenamed.found).1
      rw [hset, List.getElem?_set_self hlt] at hi
      cases hi
      exact hshort
    · rw [hrenamed.get_other hself] at hi
      exact hs.short i di hi
  · rw [hrenamed.registry]
    exact hs.registry.register (by rw [hspace])

theorem reaches (hs : s.Tidy) (hreaches : s.Reaches t) : t.Tidy := by
  induction hreaches with
  | start => exact hs
  | apply _ hshort happly ih =>
      rcases apply_cases happly with ⟨-, hsame, -⟩ | ⟨d, new, hnew, -, hrenamed, -⟩
      · exact ih.congr hsame
      · exact ih.renamed hrenamed (hshort new hnew)
  | note events _ ih => exact ih.congr (SameNames.note _ events)

end Tidy

/-- A name and what the registry tells of it lead to one name ever after, unless the registry leads
on from what it tells. -/
theorem Coherent.present_target {s t : Session} (hs : s.Coherent) (hreaches : s.Reaches t)
    {name target : Name} (hlookup : s.registry.lookup name = some target)
    (hstands : s.registry.lookup target = none) :
    t.registry.present target.key = t.registry.present name.key := by
  have htarget := Registry.key_of_lookup hlookup
  obtain ⟨e, hfind, rfl⟩ := Option.map_eq_some_iff.1 hlookup
  obtain ⟨id, d, hd, hkey⟩ := hs.targets e (Registry.find?_mem hfind)
  have hown : s.registry.present e.new.key = e.new.key :=
    Registry.present_of_find?_none (Registry.lookup_eq_none_iff.1 hstands)
  obtain ⟨d', hd', hfromTarget⟩ := hs.leads_reaches hreaches
    (show s.Leads e.new.key id from ⟨d, hd, by rw [hkey, hown]⟩)
  obtain ⟨d'', hd'', hfromName⟩ := hs.leads_reaches hreaches
    (show s.Leads name.key id from ⟨d, hd, by rw [hkey, htarget]⟩)
  obtain rfl : d' = d'' := Option.some.inj (hd'.symm.trans hd'')
  rw [hfromTarget, hfromName]

end Session

end Rechristen
