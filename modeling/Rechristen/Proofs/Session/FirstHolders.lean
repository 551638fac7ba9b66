import Rechristen.Proofs.Session.Origins

/-!
# A name leads to the declaration that had it first

A name that was given up is free, and another declaration may take it.  The registry knows nothing
of that: it goes on leading from the name to the declaration that gave it up.  So the present name
of a declaration can lead to another declaration, and whoever puts present names through the
registry is led astray.

To say when this happens we keep a book of who took which name, in the order of time (`Took`).  The
registry leads from every name in the book to the declaration that is first in the book under it,
and from every other name to that name.  One renaming adds one line to the book.  If the name in it
is there already, the registry leads from it where it led before, and what a name leads to never
changes (`Coherent.leads_renamed`); otherwise no entry of the registry is for that name.
-/

namespace Rechristen.Session

/-- The keys of the declarations with the declarations themselves. -/
def holdings (s : Session) : List (Name.Key × DeclarationId) :=
  s.declarations.mapIdx fun id d => (d.key, id)

/-- Calls of `apply`, each for some file, some declaration, some short name or none and some policy,
that return.  The book tells which declaration took which key, at first and in these calls. -/
inductive Took (s : Session) : List (Name.Key × DeclarationId) → Session → Prop
  | start : Took s s.holdings s
  | kept {t u : Session} {book : List (Name.Key × DeclarationId)} {source after : Source}
      {id : DeclarationId} {newName : Option Name} {p : Policy} : Took s book t →
      t.apply source id newName p = ⟨.ok none, (u, after)⟩ → Took s book u
  | renamed {t u : Session} {book : List (Name.Key × DeclarationId)} {source after : Source}
      {id : DeclarationId} {newName : Option Name} {p : Policy} {record : RenameRecord} :
      Took s book t → (∀ new, newName = some new → new.IsShort) →
      t.apply source id newName p = ⟨.ok (some record), (u, after)⟩ →
      Took s (book ++ [(record.new.key, id)]) u

/-- A call that gives a record adds a line to the book. -/
theorem Took.applied {s t : Session} {book : List (Name.Key × DeclarationId)} {source : Source}
    {id : DeclarationId} {new : Name} {p : Policy} {key : Name.Key} (htook : s.Took book t)
    (hshort : new.IsShort)
    (hrecord : (t.apply source id (some new) p).result.toOption.join.map (·.new.key) = some key) :
    s.Took (book ++ [(key, id)]) (t.apply source id (some new) p).state.1 := by
  obtain ⟨record, hjoin, rfl⟩ := Option.map_eq_some_iff.1 hrecord
  have happly : t.apply source id (some new) p =
      ⟨.ok (some record), (t.apply source id (some new) p).state⟩ := by
    generalize t.apply source id (some new) p = attempt at hjoin ⊢
    obtain ⟨result, state⟩ := attempt
    cases result with
    | error failure => cases hjoin
    | ok outcome =>
        obtain rfl : outcome = some record := hjoin
        rfl
  refine htook.renamed (fun name hname => ?_) happly
  cases hname
  exact hshort

/-- The book is right about a session. -/
structure Kept (book : List (Name.Key × DeclarationId)) (s : Session) : Prop where
  coherent : s.Coherent
  /-- A declaration took the name it has. -/
  present : ∀ (id : DeclarationId) (d : Declaration), s.declarations[id]? = some d →
    (d.key, id) ∈ book
  /-- A name that was given up had been taken. -/
  past : ∀ e ∈ s.registry.entries, ∃ id, (e.old.key, id) ∈ book
  /-- A name leads to the declaration that took it first. -/
  leads : ∀ key id, book.lookup key = some id → s.Leads key id

theorem exists_lookup_of_mem {book : List (Name.Key × DeclarationId)} {key : Name.Key}
    {id : DeclarationId} (hmem : (key, id) ∈ book) : ∃ first, book.lookup key = some first := by
  cases hlookup : book.lookup key with
  | none => simpa using List.lookup_eq_none_iff.1 hlookup (key, id) hmem
  | some first => exact ⟨first, rfl⟩

theorem mem_of_lookup {book : List (Name.Key × DeclarationId)} {key : Name.Key}
    {id : DeclarationId} (hlookup : book.lookup key = some id) : (key, id) ∈ book := by
  obtain ⟨before, after, rfl, -⟩ := List.lookup_eq_some_iff.1 hlookup
  simp

namespace Kept

variable {book : List (Name.Key × DeclarationId)} {s t : Session} {id : DeclarationId}
  {d : Declaration} {new : Name}

/-- A name that nobody took is not in the registry. -/
theorem present_of_lookup_none (hs : Kept book s) {key : Name.Key}
    (hlookup : book.lookup key = none) : s.registry.present key = key := by
  cases hfind : s.registry.find? key with
  | none => exact Registry.present_of_find?_none hfind
  | some e =>
      obtain ⟨i, hmem⟩ := hs.past e (Keyed.find?_some_mem hfind)
      rw [Keyed.find?_some_key hfind] at hmem
      obtain ⟨first, hfirst⟩ := exists_lookup_of_mem hmem
      rw [hlookup] at hfirst
      cases hfirst

theorem congr (hs : Kept book s) (hsame : SameNames s t) : Kept book t where
  coherent := hs.coherent.congr hsame
  present := by
    rw [hsame.declarations]
    exact hs.present
  past := by
    rw [hsame.registry]
    exact hs.past
  leads key id hlookup := by
    unfold Leads
    rw [hsame.declarations, hsame.registry]
    exact hs.leads key id hlookup

/-- The new name of a declaration leads to it, unless the book has the name already. -/
theorem leads_new (hs : Kept book s) (hrenamed : Renamed s t id d new)
    (hlookup : book.lookup (Name.qualify d.space new).key = none) :
    t.Leads (Name.qualify d.space new).key id := by
  obtain ⟨d', hd', hname⟩ := hrenamed.get_self
  refine ⟨d', hd', ?_⟩
  rw [hrenamed.present hs.coherent, hs.present_of_lookup_none hlookup, ite_self, Declaration.key,
    hname]

theorem renamed (hs : Kept book s) (hrenamed : Renamed s t id d new) (hshort : new.IsShort) :
    Kept (book ++ [((Name.qualify d.space new).key, id)]) t where
  coherent := hs.coherent.renamed hrenamed hshort
  present i di hi := by
    by_cases hself : i = id
    · subst hself
      obtain ⟨d', hd', hname⟩ := hrenamed.get_self
      obtain rfl : d' = di := Option.some.inj (hd'.symm.trans hi)
      rw [Declaration.key, hname]
      exact List.mem_append_right book (List.mem_singleton_self _)
    · rw [hrenamed.get_other hself] at hi
      exact List.mem_append_left _ (hs.present i di hi)
  past e he := by
    -- The entry is for the name just given up, or for one that was given up before.
    have hold : ∃ i, (e.old.key, i) ∈ book := by
      rw [hrenamed.registry] at he
      rcases Registry.mem_register_of_accepted hrenamed.accepted he with rfl | ⟨he, -⟩ |
        ⟨f, hf, -, rfl⟩
      · refine ⟨id, ?_⟩
        rw [Name.key_normalize]
        exact hs.present id d hrenamed.found
      · exact hs.past e he
      · exact hs.past f hf
    obtain ⟨i, hi⟩ := hold
    exact ⟨i, List.mem_append_left _ hi⟩
  leads key i hlookup := by
    -- The first line under the key stood in the book before, or it is the new one.
    rw [List.lookup_append] at hlookup
    cases hbefore : book.lookup key with
    | some first =>
        rw [hbefore, Option.some_or] at hlookup
        cases hlookup
        exact hs.coherent.leads_renamed hrenamed (hs.leads key i hbefore)
    | none =>
        rw [hbefore, Option.none_or] at hlookup
        obtain ⟨rfl, rfl⟩ := Prod.mk.inj (List.mem_singleton.1 (mem_of_lookup hlookup))
        exact hs.leads_new hrenamed hbefore

/-- As long as nothing is renamed the book has every declaration under its own name. -/
theorem holdings (hs : s.Coherent) (hregistry : s.registry = {}) : Kept s.holdings s where
  coherent := hs
  present i di hi := by
    obtain ⟨hlt, rfl⟩ := List.getElem?_eq_some_iff.1 hi
    exact List.mem_mapIdx.2 ⟨i, hlt, rfl⟩
  past e he := by
    rw [hregistry] at he
    cases he
  leads key i hlookup := by
    obtain ⟨j, hlt, heq⟩ := List.mem_mapIdx.1 (mem_of_lookup hlookup)
    obtain ⟨rfl, rfl⟩ := Prod.mk.inj heq
    exact leads_of_registry_empty hregistry (List.getElem?_eq_getElem hlt)

theorem took (hs : Kept s.holdings s) (htook : s.Took book t) : Kept book t := by
  induction htook with
  | start => exact hs
  | kept _ happly ih =>
      rcases apply_cases happly with ⟨-, hsame, -⟩ | ⟨_, _, -, -, -, ⟨_, hrecord⟩, -⟩
      · exact ih.congr hsame
      · cases hrecord
  | renamed _ hshort happly ih =>
      rcases apply_cases happly with ⟨hrecord, -⟩ | ⟨d, new, hnew, -, hrenamed, ⟨_, hrecord⟩, -⟩
      · cases hrecord
      · simp only [Option.some.inj hrecord]
        exact ih.renamed hrenamed (hshort new hnew)

end Kept

/-- **First holders.**  Start with declarations whose names have different keys, all of them in the
table.  After any calls that return, the registry resolves every name that was ever taken to the
present name of the declaration that took it first, and every other name to itself.  So the present
name of a declaration stays as it is exactly if no other declaration had it before. -/
theorem resolve_first_holder {dryRun : Bool} {collision : CollisionPolicy}
    {declarations : List Declaration} (hdistinct : (declarations.map Declaration.key).Nodup)
    {book : List (Name.Key × DeclarationId)} {s : Session}
    (htook : (opened dryRun collision declarations).Took book s) :
    (∀ (name : Name) (first : DeclarationId), book.lookup name.key = some first →
      ∃ owner, s.declarations[first]? = some owner ∧
        (s.registry.resolve name).key = owner.key) ∧
    (∀ name : Name, book.lookup name.key = none → (s.registry.resolve name).key = name.key) ∧
    ∀ (id : DeclarationId) (now : Declaration), s.declarations[id]? = some now →
      ((s.registry.resolve now.name).key = now.key ↔ book.lookup now.key = some id) := by
  have hopened : (opened dryRun collision declarations).Coherent :=
    coherent_indexAll rfl rfl hdistinct fun id hid => List.mem_range.2 hid
  have hs : Kept book s := (Kept.holdings hopened (indexAll_registry _ _)).took htook
  have hresolve (name : Name) : (s.registry.resolve name).key = s.registry.present name.key :=
    Registry.key_resolve hs.coherent.spelled name
  have hfirst (name : Name) (first : DeclarationId) (hlookup : book.lookup name.key = some first) :
      ∃ owner, s.declarations[first]? = some owner ∧
        (s.registry.resolve name).key = owner.key := by
    rw [hresolve]
    exact hs.leads name.key first hlookup
  refine ⟨hfirst, fun name hlookup => ?_, fun id now hnow => ⟨fun hstable => ?_, fun hlookup => ?_⟩⟩
  · rw [hresolve, hs.present_of_lookup_none hlookup]
  · obtain ⟨first, hlookup⟩ := exists_lookup_of_mem (hs.present id now hnow)
    obtain ⟨owner, howner, hkey⟩ := hfirst now.name first hlookup
    -- The first holder has the same present name, and so it is the same declaration.
    rw [hlookup, hs.coherent.id_eq howner hnow (hkey.symm.trans hstable)]
  · obtain ⟨owner, howner, hkey⟩ := hfirst now.name id hlookup
    rw [hkey, Option.some.inj (howner.symm.trans hnow)]

/-! ### A present name that leads elsewhere -/

/-- The first class gives its name up and the second takes it. -/
def takenOver : Session :=
  let file : Source := { path := ⟨"", ["Entity.php"]⟩, content := [] }
  let rename (s : Session) (id : DeclarationId) (new : Name) : Session :=
    (s.apply file id (some new) Policy.valueObject).state.1
  rename (rename (opened false .firstWins [classIn "Entity", classIn "Order"]) 0 "Base") 1 "Entity"

/-- Who took which name until the second class was called as the first one before. -/
def takenOverBook : List (Name.Key × DeclarationId) :=
  [(Name.key "App\\Entity", 0), (Name.key "App\\Order", 1), (Name.key "App\\Base", 0),
    (Name.key "App\\Entity", 1)]

theorem resolve_first_holder_takenOver :
    ([classIn "Entity", classIn "Order"].map Declaration.key).Nodup ∧
    (opened false .firstWins [classIn "Entity", classIn "Order"]).Took takenOverBook takenOver ∧
    ∃ now, takenOver.declarations[1]? = some now ∧ now.name = "App\\Entity" ∧
      (takenOver.registry.resolve now.name).key ≠ now.key ∧
      ∃ owner, takenOver.declarations[0]? = some owner ∧
        (takenOver.registry.resolve now.name).key = owner.key := by
  have hdistinct : ([classIn "Entity", classIn "Order"].map Declaration.key).Nodup := by
    decide +kernel
  have htook : (opened false .firstWins [classIn "Entity", classIn "Order"]).Took takenOverBook
      takenOver := by
    have hbook : takenOverBook =
        (opened false .firstWins [classIn "Entity", classIn "Order"]).holdings ++
          [(Name.key "App\\Base", 0)] ++ [(Name.key "App\\Entity", 1)] := by decide +kernel
    rw [hbook]
    unfold takenOver
    refine .applied (.applied .start ⟨by decide, by decide +kernel⟩ ?_)
      ⟨by decide, by decide +kernel⟩ ?_ <;> decide +kernel
  have hname : takenOver.declarations[1]?.map Declaration.name = some "App\\Entity" := by
    decide +kernel
  obtain ⟨now, hnow, hname⟩ := Option.map_eq_some_iff.1 hname
  have hlookup : takenOverBook.lookup now.key = some 0 := by
    rw [Declaration.key, hname]
    decide +kernel
  obtain ⟨hfirst, -, hstable⟩ := resolve_first_holder hdistinct htook
  refine ⟨hdistinct, htook, now, hnow, hname, fun hkey => ?_, hfirst now.name 0 hlookup⟩
  have hself := (hstable 1 now hnow).1 hkey
  rw [hlookup] at hself
  cases hself

end Rechristen.Session
