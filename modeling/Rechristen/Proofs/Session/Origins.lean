import Rechristen.Policy.Catalog
import Rechristen.Proofs.DeclarationTable
import Rechristen.Proofs.Session.Renaming

/-!
# Every declaration is found from the name it had at first

A session keeps the name of a declaration in three places: at the declaration, in the table, and in
the registry, which leads from names that were given up to the present ones.  This file shows that
the three agree in every session that calls of `apply` can reach.

`Coherent` is what one call keeps (`Coherent.renamed`).  It says that the table finds every
declaration under its present key and that every entry of the registry leads to the present key of a
declaration.

What a name leads to does not depend on when one asks: a name that leads to a declaration now leads
to the same declaration ever after, under whatever name (`Coherent.leads_renamed`).  At the start
the registry is empty and every declaration is led to by its own name, so the first name of a
declaration leads to it always.
-/

namespace Rechristen

namespace Session

/-- The registry and the table agree with the present names of the declarations. -/
structure Coherent (s : Session) : Prop where
  registry : s.registry.WellFormed
  /-- No entry leads to the empty name. -/
  spelled : ∀ e ∈ s.registry.entries, e.new ≠ ""
  /-- The table finds every declaration. -/
  indexed : ∀ (id : DeclarationId) (d : Declaration), s.declarations[id]? = some d →
    s.table.find? d.key = some id
  /-- Every entry leads to a declaration. -/
  targets : ∀ e ∈ s.registry.entries, ∃ (id : DeclarationId) (d : Declaration),
    s.declarations[id]? = some d ∧ d.key = e.new.key

/-- In `s`, the name with `key` leads to the declaration `id`. -/
def Leads (s : Session) (key : Name.Key) (id : DeclarationId) : Prop :=
  ∃ d, s.declarations[id]? = some d ∧ s.registry.present key = d.key

namespace Coherent

variable {s t : Session} {id : DeclarationId} {d : Declaration} {new : Name}

/-- Two declarations are told apart by their keys. -/
theorem id_eq (hs : s.Coherent) {i j : DeclarationId} {di dj : Declaration}
    (hi : s.declarations[i]? = some di) (hj : s.declarations[j]? = some dj)
    (hkey : di.key = dj.key) : i = j := by
  have hfound := hs.indexed i di hi
  rw [hkey, hs.indexed j dj hj] at hfound
  exact (Option.some.inj hfound).symm

theorem congr (hs : s.Coherent) (hsame : SameNames s t) : t.Coherent := by
  obtain ⟨hdeclarations, hregistry, htable⟩ := hsame
  constructor
  · rw [hregistry]
    exact hs.registry
  · rw [hregistry]
    exact hs.spelled
  · rw [hdeclarations, htable]
    exact hs.indexed
  · rw [hdeclarations, hregistry]
    exact hs.targets

end Coherent

namespace Renamed

variable {s t : Session} {id : DeclarationId} {d : Declaration} {new : Name}

/-- The renamed declaration has its new name. -/
theorem get_self (hrenamed : Renamed s t id d new) :
    ∃ d', t.declarations[id]? = some d' ∧ d'.name = Name.qualify d.space new := by
  obtain ⟨planned, hset⟩ := hrenamed.declarations
  have hlt : id < s.declarations.length := (List.getElem?_eq_some_iff.1 hrenamed.found).1
  refine ⟨{ d with shortName := new, plannedPath := planned }, ?_, rfl⟩
  rw [hset, List.getElem?_set_self hlt]

/-- The other declarations are as they were. -/
theorem get_other (hrenamed : Renamed s t id d new) {i : DeclarationId} (hi : i ≠ id) :
    t.declarations[i]? = s.declarations[i]? := by
  obtain ⟨planned, hset⟩ := hrenamed.declarations
  rw [hset, List.getElem?_set_ne (Ne.symm hi)]

theorem present (hrenamed : Renamed s t id d new) (hs : s.Coherent) (key : Name.Key) :
    t.registry.present key =
      if s.registry.present key = d.key then (Name.qualify d.space new).key
      else s.registry.present key := by
  rw [hrenamed.registry]
  exact hs.registry.present_register_of_accepted hrenamed.accepted key

end Renamed

namespace Coherent

variable {s t : Session} {id : DeclarationId} {d : Declaration} {new : Name}

/-- What a name leads to stays the same when a declaration is renamed. -/
theorem leads_renamed (hs : s.Coherent) (hrenamed : Renamed s t id d new) {key : Name.Key}
    {i : DeclarationId} (hleads : s.Leads key i) : t.Leads key i := by
  obtain ⟨di, hi, hpresent⟩ := hleads
  unfold Leads
  rw [hrenamed.present hs, hpresent]
  by_cases hself : i = id
  · subst hself
    obtain rfl : di = d := Option.some.inj (hi.symm.trans hrenamed.found)
    obtain ⟨d', hd', hname⟩ := hrenamed.get_self
    refine ⟨d', hd', ?_⟩
    rw [if_pos rfl, Declaration.key, hname]
  · refine ⟨di, by rw [hrenamed.get_other hself, hi], ?_⟩
    rw [if_neg fun hkey => hself (hs.id_eq hi hrenamed.found hkey)]

/-- Renaming a declaration keeps the session coherent. -/
theorem renamed (hs : s.Coherent) (hrenamed : Renamed s t id d new) (hshort : new.IsShort) :
    t.Coherent where
  registry := by
    rw [hrenamed.registry]
    exact hs.registry.register _ _
  spelled e he := by
    rw [hrenamed.registry] at he
    rcases Registry.mem_register_of_accepted hrenamed.accepted he with rfl | ⟨he, -⟩ |
      ⟨f, -, -, rfl⟩
    · exact hshort.normalize_qualify_ne_empty d.space
    · exact hs.spelled e he
    · exact hshort.normalize_qualify_ne_empty d.space
  indexed i di hi := by
    rw [hrenamed.table, DeclarationTable.find?_rename]
    by_cases hself : i = id
    · subst hself
      obtain ⟨d', hd', hname⟩ := hrenamed.get_self
      obtain rfl : d' = di := Option.some.inj (hd'.symm.trans hi)
      have hkey : d'.key = { d with shortName := new }.key := by
        rw [Declaration.key, hname]
        rfl
      rw [if_pos hkey]
    · rw [hrenamed.get_other hself] at hi
      have hfound := hs.indexed i di hi
      -- Another declaration holds neither the new name, or the claim would have been refused ...
      have hnew : di.key ≠ { d with shortName := new }.key := by
        intro hkey
        have hrival := DeclarationTable.rival?_eq_none_iff.1 hrenamed.unrivalled i
        exact hself (hrival (by rw [← hfound, hkey]; rfl))
      -- ... nor the old one, since keys tell declarations apart.
      have hold : di.key ≠ d.name.key := fun hkey => hself (hs.id_eq hi hrenamed.found hkey)
      rw [if_neg hnew, if_neg (fun h => hold h.2), hfound]
  targets e he := by
    rw [hrenamed.registry] at he
    obtain ⟨d', hd', hname⟩ := hrenamed.get_self
    have hself : d'.key = (Name.qualify d.space new).normalize.key := by
      rw [Declaration.key, hname, Name.key_normalize]
    rcases Registry.mem_register_of_accepted hrenamed.accepted he with rfl | ⟨he, hled⟩ |
      ⟨f, -, -, rfl⟩
    · exact ⟨id, d', hd', hself⟩
    · -- An entry that is left alone leads to another declaration, unless the new key is the old
      -- one.
      obtain ⟨i, di, hi, hkey⟩ := hs.targets e he
      by_cases hi' : i = id
      · subst hi'
        obtain rfl : di = d := Option.some.inj (hi.symm.trans hrenamed.found)
        refine ⟨i, d', hd', ?_⟩
        rw [Declaration.key, hname, ← hled hkey.symm]
        exact hkey
      · exact ⟨i, di, by rw [hrenamed.get_other hi', hi], hkey⟩
    · exact ⟨id, d', hd', hself⟩

end Coherent

/-! ## Any number of calls -/

/-- The sessions that calls of `apply` reach: each call is for some file, some declaration, some
short name or none and some policy, and returns.  Something may be reported in between. -/
inductive Reaches (s : Session) : Session → Prop
  | start : Reaches s s
  | apply {t u : Session} {source after : Source} {id : DeclarationId} {newName : Option Name}
      {p : Policy} {record : Option RenameRecord} : Reaches s t →
      (∀ new, newName = some new → new.IsShort) →
      t.apply source id newName p = ⟨.ok record, (u, after)⟩ → Reaches s u
  | note {t : Session} (events : List Event) : Reaches s t → Reaches s (t.note events)

/-- A call that does not fail reaches the session it leaves behind. -/
theorem Reaches.applied {s t : Session} {source : Source} {id : DeclarationId} {new : Name}
    {p : Policy} (hreaches : s.Reaches t) (hshort : new.IsShort)
    (hok : (t.apply source id (some new) p).failure? = none) :
    s.Reaches (t.apply source id (some new) p).state.1 := by
  obtain ⟨record, happly⟩ := Attempt.exists_ok hok
  refine hreaches.apply (fun name hname => ?_) happly
  cases hname
  exact hshort

theorem Reaches.trans {s t u : Session} (hst : s.Reaches t) (htu : t.Reaches u) : s.Reaches u := by
  induction htu with
  | start => exact hst
  | apply _ hshort happly ih => exact ih.apply hshort happly
  | note events _ ih => exact ih.note events

theorem Coherent.reaches {s t : Session} (hs : s.Coherent) (hreaches : s.Reaches t) :
    t.Coherent := by
  induction hreaches with
  | start => exact hs
  | apply _ hshort happly ih =>
      rcases apply_cases happly with ⟨-, hsame, -⟩ | ⟨d, new, hnew, -, hrenamed, -⟩
      · exact ih.congr hsame
      · exact ih.renamed hrenamed (hshort new hnew)
  | note events _ ih => exact ih.congr (SameNames.note _ events)

/-- A name that leads to a declaration leads to it ever after. -/
theorem Coherent.leads_reaches {s t : Session} (hs : s.Coherent) (hreaches : s.Reaches t)
    {key : Name.Key} {id : DeclarationId} (hleads : s.Leads key id) : t.Leads key id := by
  induction hreaches with
  | start => exact hleads
  | apply hbefore hshort happly ih =>
      rcases apply_cases happly with ⟨-, hsame, -⟩ | ⟨d, new, -, -, hrenamed, -⟩
      · unfold Leads at ih ⊢
        rwa [hsame.declarations, hsame.registry]
      · exact (hs.reaches hbefore).leads_renamed hrenamed ih
  | note events _ ih => exact ih

/-! ## The start -/

/-- The session with declarations entered into the table, one after the other. -/
def indexAll (s : Session) (ids : List DeclarationId) : Session :=
  ids.foldl (fun s id => (s.index id).2) s

theorem index_declarations (s : Session) (id : DeclarationId) :
    (s.index id).2.declarations = s.declarations := by
  unfold index
  split
  · rfl
  · split <;> rfl

theorem index_registry (s : Session) (id : DeclarationId) :
    (s.index id).2.registry = s.registry := by
  unfold index
  split
  · rfl
  · split <;> rfl

theorem indexAll_declarations (s : Session) (ids : List DeclarationId) :
    (s.indexAll ids).declarations = s.declarations := by
  induction ids generalizing s with
  | nil => rfl
  | cons id rest ih => exact (ih (s.index id).2).trans (index_declarations s id)

theorem indexAll_registry (s : Session) (ids : List DeclarationId) :
    (s.indexAll ids).registry = s.registry := by
  induction ids generalizing s with
  | nil => rfl
  | cons id rest ih => exact (ih (s.index id).2).trans (index_registry s id)

/-- A declaration without a rival is found under its key from now on. -/
theorem find?_index {s : Session} {id : DeclarationId} {d : Declaration}
    (hfound : s.declarations[id]? = some d) (hrival : s.table.rival? d.name id = none)
    (key : Name.Key) :
    (s.index id).2.table.find? key = if key = d.key then some id else s.table.find? key := by
  simp only [index, hfound, DeclarationTable.add, hrival]
  exact DeclarationTable.find?_enter s.table id d key

/-- What the table finds under a key is a declaration with that key. -/
def TableSound (s : Session) : Prop :=
  ∀ key id, s.table.find? key = some id → ∃ d, s.declarations[id]? = some d ∧ d.key = key

/-- Declarations are told apart by their keys. -/
theorem id_eq_of_nodup {declarations : List Declaration}
    (hdistinct : (declarations.map Declaration.key).Nodup) {i j : DeclarationId}
    {di dj : Declaration} (hi : declarations[i]? = some di) (hj : declarations[j]? = some dj)
    (hkey : di.key = dj.key) : i = j := by
  have hlt : i < (declarations.map Declaration.key).length := by
    rw [List.length_map]
    exact (List.getElem?_eq_some_iff.1 hi).1
  apply (List.getElem?_inj hlt hdistinct).1
  rw [List.getElem?_map, List.getElem?_map, hi, hj, Option.map_some, Option.map_some, hkey]

theorem index_tableSound {s : Session} (hsound : s.TableSound)
    (hdistinct : (s.declarations.map Declaration.key).Nodup) (id : DeclarationId) :
    (s.index id).2.TableSound ∧
      ∀ i d, s.declarations[i]? = some d → i = id ∨ s.table.find? d.key = some i →
        (s.index id).2.table.find? d.key = some i := by
  cases hfound : s.declarations[id]? with
  | none =>
      have hsame : (s.index id).2 = s := by simp [index, hfound]
      rw [hsame]
      refine ⟨hsound, fun i d hi hknown => ?_⟩
      rcases hknown with rfl | hknown
      · simp [hfound] at hi
      · exact hknown
  | some e =>
      -- What is found under the key has it, so it is this declaration: nothing stands in its way.
      have hrival : s.table.rival? e.name id = none := by
        rw [DeclarationTable.rival?_eq_none_iff]
        intro other hother
        obtain ⟨d, hd, hkey⟩ := hsound _ _ hother
        exact id_eq_of_nodup hdistinct hd hfound hkey
      constructor
      · intro key i hi
        rw [find?_index hfound hrival] at hi
        rw [index_declarations]
        split at hi
        case isTrue hkey =>
          cases hi
          exact ⟨e, hfound, hkey.symm⟩
        case isFalse => exact hsound key i hi
      · intro i d hi hknown
        rw [find?_index hfound hrival]
        by_cases hkey : d.key = e.key
        · rw [if_pos hkey, id_eq_of_nodup hdistinct hi hfound hkey]
        · rw [if_neg hkey]
          rcases hknown with rfl | hknown
          · exact absurd (congrArg Declaration.key (Option.some.inj (hi.symm.trans hfound))) hkey
          · exact hknown

/-- Declarations with different keys are all found once they are entered. -/
theorem find?_indexAll {s : Session} (hsound : s.TableSound)
    (hdistinct : (s.declarations.map Declaration.key).Nodup) (ids : List DeclarationId)
    {i : DeclarationId} {d : Declaration} (hi : s.declarations[i]? = some d)
    (hknown : i ∈ ids ∨ s.table.find? d.key = some i) :
    (s.indexAll ids).table.find? d.key = some i := by
  induction ids generalizing s with
  | nil => simpa [indexAll] using hknown
  | cons id rest ih =>
      obtain ⟨hsound', hkept⟩ := index_tableSound hsound hdistinct id
      have hdeclarations := index_declarations s id
      apply ih (s := (s.index id).2) hsound' (by rwa [hdeclarations]) (by rwa [hdeclarations])
      rcases hknown with hmem | hknown
      · rcases List.mem_cons.1 hmem with rfl | hmem
        · exact Or.inr (hkept i d hi (Or.inl rfl))
        · exact Or.inl hmem
      · exact Or.inr (hkept i d hi (Or.inr hknown))

/-- A session in which nothing was renamed yet is coherent once its declarations, told apart by
their keys, are entered. -/
theorem coherent_indexAll {s : Session} (hregistry : s.registry = {}) (htable : s.table = {})
    (hdistinct : (s.declarations.map Declaration.key).Nodup) {ids : List DeclarationId}
    (hall : ∀ id < s.declarations.length, id ∈ ids) : (s.indexAll ids).Coherent where
  registry := by
    rw [indexAll_registry, hregistry]
    exact Registry.WellFormed.empty
  spelled e he := by
    rw [indexAll_registry, hregistry] at he
    cases he
  indexed i d hi := by
    rw [indexAll_declarations] at hi
    have hsound : s.TableSound := by
      intro key id hfind
      rw [htable] at hfind
      cases hfind
    exact find?_indexAll hsound hdistinct ids hi
      (Or.inl (hall i (List.getElem?_eq_some_iff.1 hi).1))
  targets e he := by
    rw [indexAll_registry, hregistry] at he
    cases he

/-- In a session in which nothing was renamed yet a declaration is led to by its own name. -/
theorem leads_of_registry_empty {s : Session} (hregistry : s.registry = {}) {id : DeclarationId}
    {d : Declaration} (hfound : s.declarations[id]? = some d) : s.Leads d.key id :=
  ⟨d, hfound, by rw [hregistry]; rfl⟩

/-- A new session for declarations, all of them entered into the table. -/
def opened (dryRun : Bool) (collision : CollisionPolicy) (declarations : List Declaration) :
    Session :=
  (({ dryRun, collision } : Session).receive declarations).indexAll
    (List.range declarations.length)

theorem opened_declarations (dryRun : Bool) (collision : CollisionPolicy)
    (declarations : List Declaration) :
    (opened dryRun collision declarations).declarations = declarations :=
  indexAll_declarations _ _

/-- **Origins.**  Start with declarations whose names have different keys, all of them in the table.
After any calls that return, the registry resolves the first name of a declaration to its present
name, and every name to which the registry leads is the present name of a declaration in the
table. -/
theorem resolve_origin {dryRun : Bool} {collision : CollisionPolicy}
    {declarations : List Declaration} (hdistinct : (declarations.map Declaration.key).Nodup)
    {s : Session} (hreaches : (opened dryRun collision declarations).Reaches s) :
    (∀ (id : DeclarationId) (first : Declaration), declarations[id]? = some first →
      ∃ now, s.declarations[id]? = some now ∧ (s.registry.resolve first.name).key = now.key) ∧
    ∀ e ∈ s.registry.entries, ∃ (id : DeclarationId) (now : Declaration),
      s.table.get? e.new = some id ∧ s.declarations[id]? = some now ∧ e.new.key = now.key := by
  have hopened : (opened dryRun collision declarations).Coherent :=
    coherent_indexAll rfl rfl hdistinct fun id hid => List.mem_range.2 hid
  have hs : s.Coherent := hopened.reaches hreaches
  constructor
  · intro id first hfirst
    have hstart : (opened dryRun collision declarations).Leads first.key id :=
      leads_of_registry_empty (indexAll_registry _ _)
        (by rw [opened_declarations]; exact hfirst)
    obtain ⟨now, hnow, hpresent⟩ := hopened.leads_reaches hreaches hstart
    exact ⟨now, hnow, by rw [Registry.key_resolve hs.spelled]; exact hpresent⟩
  · intro e he
    obtain ⟨id, now, hnow, hkey⟩ := hs.targets e he
    refine ⟨id, now, ?_, hnow, hkey.symm⟩
    have hindexed := hs.indexed id now hnow
    rwa [hkey] at hindexed

/-! ### A name that is given up and taken again -/

/-- A class of the namespace `App`, in a file of its own. -/
def classIn (shortName : Name) : Declaration :=
  { shortName, space := "App", kind := .class_, path := ⟨"", [shortName ++ ".php"]⟩ }

/-- The first class gives its name up, the second takes it, and the first moves on. -/
def handedOver : Session :=
  let file : Source := { path := ⟨"", ["Entity.php"]⟩, content := [] }
  let rename (s : Session) (id : DeclarationId) (new : Name) : Session :=
    (s.apply file id (some new) Policy.valueObject).state.1
  let s := opened false .firstWins [classIn "Entity", classIn "Order"]
  rename (rename (rename s 0 "Base") 1 "entity") 0 "Root"

theorem resolve_origin_handedOver :
    ([classIn "Entity", classIn "Order"].map Declaration.key).Nodup ∧
    (opened false .firstWins [classIn "Entity", classIn "Order"]).Reaches handedOver ∧
    ⟨"App\\Order", "App\\entity"⟩ ∈ handedOver.registry.entries ∧
    (∃ now, handedOver.declarations[0]? = some now ∧
      (handedOver.registry.resolve (classIn "Entity").name).key = now.key) ∧
    ∃ (id : DeclarationId) (now : Declaration), handedOver.table.get? "App\\entity" = some id ∧
      handedOver.declarations[id]? = some now ∧ Name.key "App\\entity" = now.key := by
  have hdistinct : ([classIn "Entity", classIn "Order"].map Declaration.key).Nodup := by
    decide +kernel
  have hreaches : (opened false .firstWins [classIn "Entity", classIn "Order"]).Reaches
      handedOver :=
    ((Reaches.start.applied ⟨by decide, by decide +kernel⟩ (by decide +kernel)).applied
      ⟨by decide, by decide +kernel⟩ (by decide +kernel)).applied
      ⟨by decide, by decide +kernel⟩ (by decide +kernel)
  have hentry : (⟨"App\\Order", "App\\entity"⟩ : Renaming) ∈ handedOver.registry.entries := by
    decide +kernel
  obtain ⟨horigin, htarget⟩ := resolve_origin hdistinct hreaches
  exact ⟨hdistinct, hreaches, hentry, horigin 0 (classIn "Entity") rfl,
    htarget ⟨"App\\Order", "App\\entity"⟩ hentry⟩

end Session

end Rechristen
