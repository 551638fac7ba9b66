import Rechristen.Proofs.Registry.Commuting
import Rechristen.Proofs.Session.Origins
import Rechristen.Proofs.Session.Outcome

/-!
# Declarations are told apart, whatever fails

A call that fails may leave a declaration under a new name while the table still finds it under the
old one, so after failures the table does not guard all names that are in use.  Nevertheless no two
declarations ever have one name (`Called.toldApart`): where the table is behind, the registry leads
from the key under which the declaration is found to the name it has, and refuses that name to
others.

Calls change names and plans and nothing else about a declaration; in particular it stays in its
file (`Called.files`).
-/

namespace Rechristen

theorem Declaration.key_withShortName (d : Declaration) (new : Name) :
    ({ d with shortName := new } : Declaration).key = (Name.qualify d.space new).key := rfl

namespace Session

variable {s t u : Session} {id : DeclarationId} {d : Declaration} {new : Name}

/-- The keys of the declarations, in their order. -/
def keys (s : Session) : List Name.Key :=
  s.declarations.map Declaration.key

/-- The file of each declaration and whether it is named after it. -/
def files (s : Session) : List (Path × Bool) :=
  s.declarations.map fun d => (d.path, d.ownsFile)

/-- Changing an entry of a list is not seen by a function that takes the new one for the old one. -/
theorem map_set_of_eq {α β : Type} {f : α → β} {l : List α} {i : Nat} {a b : α}
    (hfound : l[i]? = some a) (hsame : f b = f a) : (l.set i b).map f = l.map f := by
  obtain ⟨hlt, rfl⟩ := List.getElem?_eq_some_iff.1 hfound
  rw [List.map_set, hsame, ← List.getElem_map f (h := by simpa using hlt), List.set_getElem_self]

/-- The sessions that calls of `apply` reach: each for some file, some declaration, some name or
none and some policy.  Calls may fail. -/
inductive Called (s : Session) : Session → Prop where
  | start : Called s s
  | call {t : Session} (source : Source) (id : DeclarationId) (newName : Option Name) (p : Policy) :
      Called s t → Called s (t.apply source id newName p).state.1

/-- A property of sessions that is kept by each change of names, and does not depend on what is
noted or planned, holds of all sessions that calls reach. -/
theorem Called.keeps (hcalled : s.Called t) (holds : Session → Prop) (hs : holds s)
    (hgiven : ∀ {s u : Session} {id d new}, holds s → Halfway s u id d new → holds u)
    (hnoted : ∀ {s t : Session}, holds s → t.registry = s.registry → t.table = s.table →
      t.keys = s.keys → t.files = s.files → holds t) : holds t := by
  induction hcalled with
  | start => exact hs
  | @call t source id newName p _ ih =>
      rcases apply_outcome t source id newName p with ⟨halike, -⟩ | ⟨d, new, u, -, -, hu, hend⟩
      · exact hnoted ih halike.registry halike.table (by rw [keys, keys, halike.declarations])
          (by rw [files, files, halike.declarations])
      have hhalf := hgiven ih hu
      rcases hend with ⟨-, hstate⟩ | ⟨-, -, hstate⟩
      · rwa [hstate]
      obtain ⟨hregistry, htable, hdeclarations⟩ := planFile_state u id { d with shortName := new }
      have hfound : u.declarations[id]? = some { d with shortName := new } := by
        rw [hu.declarations, List.getElem?_set_self (List.getElem?_eq_some_iff.1 hu.found).1]
      -- Neither the keys nor the files see what is planned.
      have hsame : ∀ {β : Type} (f : Declaration → β),
          (∀ (e : Declaration) planned, f { e with plannedPath := planned } = f e) →
          (u.planFile id { d with shortName := new }).state.declarations.map f =
            u.declarations.map f := by
        intro β f hf
        rcases hdeclarations with hkept | ⟨planned, hset⟩
        · rw [hkept]
        · rw [hset]
          exact map_set_of_eq hfound (hf _ planned)
      refine hnoted hhalf (hstate.registry.trans hregistry) (hstate.table.trans htable) ?_ ?_
      · rw [keys, hstate.declarations]
        exact hsame Declaration.key fun _ _ => rfl
      · rw [files, hstate.declarations]
        exact hsame _ fun _ _ => rfl

/-- A declaration stays in its file. -/
theorem Called.files (hcalled : s.Called t) : t.files = s.files := by
  refine hcalled.keeps (fun t => t.files = s.files) rfl ?_ ?_
  · intro s' u id d new hs' hu
    rw [← hs', Session.files, hu.declarations]
    exact map_set_of_eq hu.found rfl
  · intro s' t' hs' _ _ _ hfiles
    rw [hfiles, hs']

/-- No two declarations have one key, and each of them is found: under its own key, or under one
from which the registry leads there and which is not the key of another declaration. -/
structure ToldApart (s : Session) : Prop where
  registry : s.registry.WellFormed
  distinct : ∀ (i j : DeclarationId) (key : Name.Key), s.keys[i]? = some key →
    s.keys[j]? = some key → i = j
  held : ∀ (id : DeclarationId) (key : Name.Key), s.keys[id]? = some key → ∃ held,
    s.table.find? held = some id ∧ (held = key ∨ s.registry.present held = key) ∧
      ∀ (other : DeclarationId) (taken : Name.Key), s.keys[other]? = some taken → other ≠ id →
        held ≠ taken

namespace Halfway

theorem keys_eq (hu : Halfway s u id d new) :
    u.keys = s.keys.set id (Name.qualify d.space new).key := by
  rw [keys, hu.declarations, List.map_set]
  rfl

theorem key_self (hu : Halfway s u id d new) : s.keys[id]? = some d.key := by
  rw [keys, List.getElem?_map, hu.found, Option.map_some]

theorem keys_self (hu : Halfway s u id d new) :
    u.keys[id]? = some (Name.qualify d.space new).key := by
  rw [hu.keys_eq, List.getElem?_set_self (List.getElem?_eq_some_iff.1 hu.key_self).1]

theorem keys_other (hu : Halfway s u id d new) {other : DeclarationId} (hother : other ≠ id) :
    u.keys[other]? = s.keys[other]? := by
  rw [hu.keys_eq, List.getElem?_set_ne hother.symm]

end Halfway

namespace ToldApart

/-- The name that is granted is not that of another declaration. -/
theorem fresh (hs : s.ToldApart) (hu : Halfway s u id d new) {other : DeclarationId}
    {key : Name.Key} (hkey : s.keys[other]? = some key) (hother : other ≠ id) :
    key ≠ (Name.qualify d.space new).key := by
  rintro rfl
  obtain ⟨hrival, haccepted⟩ := hu.granted
  obtain ⟨held, hfind, hleads, hfree⟩ := hs.held other _ hkey
  by_cases hsame : held = (Name.qualify d.space new).key
  · rw [hsame] at hfind
    exact hother (DeclarationTable.rival?_eq_none_iff.1 hrival other hfind)
  · -- The table finds it under another key, so the registry has an entry that leads to the name.
    have hpresent := hleads.resolve_left hsame
    cases hentry : s.registry.find? held with
    | none => exact hsame (by rw [← hpresent, Registry.present_of_find?_none hentry])
    | some e =>
        rw [Registry.present_of_find?_some hentry] at hpresent
        rcases (hs.registry.accepted_register_iff _ _).1 haccepted with hsame' | ⟨-, hno⟩
        · exact hother (hs.distinct other id _ hkey (hu.key_self.trans (congrArg some hsame')))
        · exact hfree id d.key hu.key_self hother.symm (hno held e hentry hpresent)

/-- What a declaration that got a new name is found under leads to the new name. -/
theorem leads_self (hs : s.ToldApart) (hu : Halfway s u id d new) {held : Name.Key}
    (hleads : held = d.key ∨ s.registry.present held = d.key) :
    held = (Name.qualify d.space new).key ∨
      u.registry.present held = (Name.qualify d.space new).key := by
  rw [hu.registry, hs.registry.present_register_of_accepted hu.granted.2]
  by_cases hpresent : s.registry.present held = d.name.key
  · rw [if_pos hpresent]
    exact Or.inr rfl
  · rw [if_neg hpresent]
    -- It is found under its old name, which has an entry: a rename like this one was accepted
    -- before.
    have hheld : held = d.name.key := hleads.resolve_right hpresent
    subst hheld
    rcases Registry.register_cases s.registry d.name (Name.qualify d.space new) with
      ⟨hsame, -⟩ | ⟨-, hrefused, -⟩ | ⟨-, -, hfree, -⟩
    · exact Or.inl hsame
    · rw [hu.granted.2] at hrefused
      cases hrefused
    · exact Or.inr (hfree.resolve_left hpresent)

theorem distinct_halfway (hs : s.ToldApart) (hu : Halfway s u id d new) {i j : DeclarationId}
    {key : Name.Key} (hi : u.keys[i]? = some key) (hj : u.keys[j]? = some key) : i = j := by
  by_cases hi' : i = id
  · by_cases hj' : j = id
    · rw [hi', hj']
    · rw [hi', hu.keys_self] at hi
      rw [hu.keys_other hj'] at hj
      exact absurd (Option.some.inj hi).symm (hs.fresh hu hj hj')
  · rw [hu.keys_other hi'] at hi
    by_cases hj' : j = id
    · rw [hj', hu.keys_self] at hj
      exact absurd (Option.some.inj hj).symm (hs.fresh hu hi hi')
    · rw [hu.keys_other hj'] at hj
      exact hs.distinct i j key hi hj

/-- The declaration that got the name is found where it was, or under the new key. -/
theorem held_self (hs : s.ToldApart) (hu : Halfway s u id d new) : ∃ held,
    u.table.find? held = some id ∧
      (held = (Name.qualify d.space new).key ∨
        u.registry.present held = (Name.qualify d.space new).key) ∧
      ∀ (other : DeclarationId) (taken : Name.Key), u.keys[other]? = some taken → other ≠ id →
        held ≠ taken := by
  -- The table is behind, or it was brought up to date.
  rcases hu.table with htable | htable
  · obtain ⟨held, hfind, hleads, hfree⟩ := hs.held id d.key hu.key_self
    refine ⟨held, by rw [htable, hfind], hs.leads_self hu hleads, ?_⟩
    intro other taken htaken hother
    rw [hu.keys_other hother] at htaken
    exact hfree other taken htaken hother
  · refine ⟨(Name.qualify d.space new).key, ?_, Or.inl rfl, ?_⟩
    · rw [htable, DeclarationTable.find?_rename, Declaration.key_withShortName, if_pos rfl]
    · intro other taken htaken hother
      rw [hu.keys_other hother] at htaken
      exact (hs.fresh hu htaken hother).symm

/-- Any other declaration is found where it was. -/
theorem held_other (hs : s.ToldApart) (hu : Halfway s u id d new) {i : DeclarationId}
    {key : Name.Key} (hi : i ≠ id) (hkey : s.keys[i]? = some key) : ∃ held,
    u.table.find? held = some i ∧ (held = key ∨ u.registry.present held = key) ∧
      ∀ (other : DeclarationId) (taken : Name.Key), u.keys[other]? = some taken → other ≠ i →
        held ≠ taken := by
  obtain ⟨held, hfind, hleads, hfree⟩ := hs.held i key hkey
  have hnew : held ≠ (Name.qualify d.space new).key := by
    rintro rfl
    exact hi (DeclarationTable.rival?_eq_none_iff.1 hu.granted.1 i hfind)
  have hold : held ≠ d.name.key := hfree id d.key hu.key_self (Ne.symm hi)
  have hne : key ≠ d.key := by
    rintro rfl
    exact hi (hs.distinct i id d.key hkey hu.key_self)
  refine ⟨held, ?_, ?_, ?_⟩
  · rcases hu.table with htable | htable
    · rw [htable, hfind]
    · rw [htable, DeclarationTable.find?_rename, Declaration.key_withShortName, if_neg hnew,
        if_neg fun h => hold h.2, hfind]
  · refine hleads.imp_right fun hpresent => ?_
    rw [hu.registry, hs.registry.present_register_of_accepted hu.granted.2, hpresent]
    exact if_neg hne
  · intro other taken htaken hother
    by_cases hid : other = id
    · subst hid
      rw [hu.keys_self] at htaken
      obtain rfl := Option.some.inj htaken
      exact hnew
    · rw [hu.keys_other hid] at htaken
      exact hfree other taken htaken hother

/-- **One name.**  Declarations are still told apart when one of them got a new name. -/
theorem halfway (hs : s.ToldApart) (hu : Halfway s u id d new) : u.ToldApart := by
  refine ⟨?_, fun i j key hi hj => hs.distinct_halfway hu hi hj, fun i key hkey => ?_⟩
  · rw [hu.registry]
    exact hs.registry.register _ _
  · by_cases hi : i = id
    · subst hi
      rw [hu.keys_self] at hkey
      obtain rfl := Option.some.inj hkey
      exact hs.held_self hu
    · rw [hu.keys_other hi] at hkey
      exact hs.held_other hu hi hkey

end ToldApart

theorem Called.toldApart (hs : s.ToldApart) (hcalled : s.Called t) : t.ToldApart := by
  refine hcalled.keeps ToldApart hs ToldApart.halfway ?_
  intro s' t' hs' hregistry htable hkeys _
  constructor
  · rw [hregistry]
    exact hs'.registry
  · rw [hkeys]
    exact hs'.distinct
  · rw [hkeys, htable, hregistry]
    exact hs'.held

theorem Coherent.toldApart (hs : s.Coherent) : s.ToldApart := by
  have hkeyed {i : DeclarationId} {key : Name.Key} (hkey : s.keys[i]? = some key) :
      s.table.find? key = some i := by
    rw [keys, List.getElem?_map] at hkey
    obtain ⟨d, hd, rfl⟩ := Option.map_eq_some_iff.1 hkey
    exact hs.indexed i d hd
  have hdistinct : ∀ (i j : DeclarationId) (key : Name.Key), s.keys[i]? = some key →
      s.keys[j]? = some key → i = j := by
    intro i j key hi hj
    exact Option.some.inj ((hkeyed hi).symm.trans (hkeyed hj))
  refine ⟨hs.registry, hdistinct, fun id key hkey => ⟨key, hkeyed hkey, Or.inl rfl, ?_⟩⟩
  rintro other taken htaken hother rfl
  exact hother (hdistinct other id key htaken hkey)

end Session

end Rechristen
